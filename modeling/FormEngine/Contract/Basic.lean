import FormEngine.Json.Pointer
import FormEngine.Json.Printer

/-!
Contracts on JSON documents. A contract is a list of keywords that a value must satisfy, each in its
turn; a keyword that does not concern the kind of value at hand is silent. Checking collects every
violation, in keyword order and inside a keyword in the order of the parts it visits, with the place
of each relative to the value that was checked.

A contract may refer to a definition by name, and so to itself. Every reference lies below a member
or an item, so as many references can be followed as the document is deep.
-/

namespace FormEngine

inductive Json.Kind where
  | array
  | boolean
  | integer
  | null
  | number
  | object
  | string
  deriving DecidableEq

namespace Json.Kind

def all : List Json.Kind := [.array, .boolean, .integer, .null, .number, .object, .string]

def name : Json.Kind → String
  | .array => "array"
  | .boolean => "boolean"
  | .integer => "integer"
  | .null => "null"
  | .number => "number"
  | .object => "object"
  | .string => "string"

/-- A floating number with a whole value is an integer too. -/
def admits : Json.Kind → Json → Bool
  | .array, .arr _ => true
  | .boolean, .bool _ => true
  | .integer, .num (.integer _) => true
  | .integer, .num (.floating _ magnitude) => magnitude.isIntegral
  | .null, .null => true
  | .number, .num _ => true
  | .object, .obj _ => true
  | .string, .str _ => true
  | _, _ => false

end Json.Kind

/-- Which values of the member `type` a clause is about. -/
inductive TagGuard where
  | oneOf (tags : List String)
  | noneOf (tags : List String)

/-- A guard says nothing about values without members. -/
def TagGuard.holds : TagGuard → Json → Bool
  | guard, .obj members =>
      match Keyed.find? "type" members with
      | none => false
      | some tag =>
          let isAmong : List String → Bool := fun tags =>
            match tag with
            | .str text => tags.contains text
            | _ => false
          match guard with
          | .oneOf tags => isAmong tags
          | .noneOf tags => !isAmong tags
  | _, _ => true

mutual
inductive Contract where
  | never
  | node (keywords : List Keyword)

inductive Keyword where
  | types (kinds : List Json.Kind)
  | constants (texts : List String)
  | notNegative
  | minLength (length : Nat)
  | minItems (count : Nat)
  | required (names : List String)
  -- One segment of a dotted path: not empty and without a dot.
  | segment
  -- A closed object has no members beyond the known ones.
  | properties (closed : Bool) (known : List (String × Contract))
  | everyMember (value : Contract)
  | items (item : Contract)
  | all (parts : List Contract)
  | exactlyOne (options : List Contract)
  | tagged (guard : TagGuard) (consequence : Contract)
  | definition (name : String)
end

namespace Contract

inductive Fault where
  | notOfKind (value : Json) (kinds : List Json.Kind)
  | notAmong (value : Json) (texts : List String)
  | negative (value : Json)
  | shorter (value : Json) (length : Nat)
  | fewer (value : Json) (count : Nat)
  | missing (name : String)
  | notSegment (value : Json)
  | unexpected (names : List String)
  | forbidden (value : Json)
  | noOption (value : Json)
  | manyOptions (value : Json)

structure Violation where
  place : Json.Pointer
  fault : Fault

def Violation.below (step : Json.Step) (violation : Violation) : Violation :=
  ⟨step :: violation.place, violation.fault⟩

section Messages

def quotedText (text : String) : String := String.ofList (Json.quoted text)

/-- Past three options only the first two are named. -/
def alternatives : List String → String
  | [] => ""
  | [only] => only
  | [first, second] => first ++ " or " ++ second
  | [first, second, third] => first ++ ", " ++ second ++ " or " ++ third
  | first :: second :: rest =>
      first ++ ", " ++ second ++ " or " ++ toString rest.length ++ " other candidates"

def plural (count : Nat) (noun : String) : String :=
  toString count ++ " " ++ noun ++ (if count = 1 then "" else "s")

/-- Kinds are named in alphabetical order, whatever their order in the contract. -/
def kindNames (kinds : List Json.Kind) : List String :=
  (Json.Kind.all.filter kinds.contains).map fun kind => quotedText kind.name

def Fault.message : Fault → String
  | .notOfKind value kinds =>
      match kindNames kinds with
      | [only] => value.compact ++ " is not of type " ++ only
      | names => value.compact ++ " is not of types " ++ ", ".intercalate names
  | .notAmong value texts =>
      value.compact ++ " is not one of " ++ alternatives (texts.map quotedText)
  | .negative value => value.compact ++ " is less than the minimum of 0"
  | .shorter value length => value.compact ++ " is shorter than " ++ plural length "character"
  | .fewer value count => value.compact ++ " has less than " ++ plural count "item"
  | .missing name => quotedText name ++ " is a required property"
  | .notSegment value => value.compact ++ " does not match \"^[^.]+$\""
  | .unexpected names =>
      "Additional properties are not allowed (" ++
        ", ".intercalate (names.map fun name => "'" ++ name ++ "'") ++
        (if names.length = 1 then " was unexpected)" else " were unexpected)")
  | .forbidden value => "False schema does not allow " ++ value.compact
  | .noOption value =>
      value.compact ++ " is not valid under any of the schemas listed in the 'oneOf' keyword"
  | .manyOptions value =>
      value.compact ++ " is valid under more than one of the schemas listed in the 'oneOf' keyword"

def Violation.text (violation : Violation) : String :=
  violation.place.label ++ ": " ++ violation.fault.message

end Messages

section Checking

def isSegment (text : String) : Bool := !text.isEmpty && !text.toList.contains '.'

def isNegative : Json → Bool
  | .num (.integer value) => value < 0
  | .num (.floating negative magnitude) => negative && !magnitude.isZero
  | _ => false

variable (refer : String → Json → List Violation)

mutual
def violations : Contract → Json → List Violation
  | .never, value => [⟨[], .forbidden value⟩]
  | .node keywords, value => keywordsViolations keywords value

def keywordsViolations : List Keyword → Json → List Violation
  | [], _ => []
  | keyword :: rest, value => keywordViolations keyword value ++ keywordsViolations rest value

def keywordViolations : Keyword → Json → List Violation
  | .types kinds, value =>
      if kinds.any fun kind => kind.admits value then [] else [⟨[], .notOfKind value kinds⟩]
  | .constants texts, value =>
      match value with
      | .str text => if texts.contains text then [] else [⟨[], .notAmong value texts⟩]
      | _ => [⟨[], .notAmong value texts⟩]
  | .notNegative, value => if isNegative value then [⟨[], .negative value⟩] else []
  | .minLength length, value =>
      match value with
      | .str text => if text.length < length then [⟨[], .shorter value length⟩] else []
      | _ => []
  | .minItems count, value =>
      match value with
      | .arr items => if items.length < count then [⟨[], .fewer value count⟩] else []
      | _ => []
  | .required names, value =>
      match value with
      | .obj members =>
          (names.filter fun name => !Keyed.contains name members).map
            fun name => ⟨[], .missing name⟩
      | _ => []
  | .segment, value =>
      match value with
      | .str text => if isSegment text then [] else [⟨[], .notSegment value⟩]
      | _ => []
  | .properties true known, value =>
      match value with
      | .obj members =>
          let unknown := members.filter fun entry => !Keyed.contains entry.1 known
          (members.flatMap fun entry => knownViolations known entry.1 entry.2) ++
            (if unknown.isEmpty then [] else [⟨[], .unexpected (Keyed.keys unknown)⟩])
      | _ => []
  | .properties false known, value =>
      match value with
      | .obj members => memberViolations known members
      | _ => []
  | .everyMember contract, value =>
      match value with
      | .obj members =>
          members.flatMap fun entry =>
            (violations contract entry.2).map (.below (.key entry.1))
      | _ => []
  | .items contract, value =>
      match value with
      | .arr items =>
          items.zipIdx.flatMap fun entry =>
            (violations contract entry.1).map (.below (.index entry.2))
      | _ => []
  | .all parts, value => partsViolations parts value
  | .exactlyOne options, value =>
      match satisfied options value with
      | 0 => [⟨[], .noOption value⟩]
      | 1 => []
      | _ => [⟨[], .manyOptions value⟩]
  | .tagged guard consequence, value =>
      if guard.holds value then violations consequence value else []
  | .definition name, value => refer name value

/-- What the contract for `name`, if any, says of the value under that name. -/
def knownViolations : List (String × Contract) → String → Json → List Violation
  | [], _, _ => []
  | (label, contract) :: rest, name, value =>
      if label = name then (violations contract value).map (.below (.key name))
      else knownViolations rest name value

/-- In the order of the contract, for the members that are there. -/
def memberViolations : List (String × Contract) → List (String × Json) → List Violation
  | [], _ => []
  | (label, contract) :: rest, members =>
      (match Keyed.find? label members with
      | some value => (violations contract value).map (.below (.key label))
      | none => []) ++ memberViolations rest members

def partsViolations : List Contract → Json → List Violation
  | [], _ => []
  | part :: rest, value => violations part value ++ partsViolations rest value

def satisfied : List Contract → Json → Nat
  | [], _ => 0
  | option :: rest, value =>
      (if (violations option value).isEmpty then 1 else 0) + satisfied rest value
end

end Checking

/-- Follows a definition, and the references in it, up to the given depth. -/
def follow (definitions : List (String × Contract)) : Nat → String → Json → List Violation
  | 0, _, _ => []
  | depth + 1, name, value =>
      match Keyed.find? name definitions with
      | some contract => violations (follow definitions depth) contract value
      | none => []

def check (definitions : List (String × Contract)) (contract : Contract) (value : Json) :
    List Violation :=
  violations (follow definitions (value.nesting + 1)) contract value

end Contract

end FormEngine
