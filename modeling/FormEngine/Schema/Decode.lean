import FormEngine.Json.Printer
import FormEngine.Schema.Basic

/-!
Reading the model of a form from JSON. Attributes that the model does not know, or that belong to
another type of field, are passed over; an optional attribute may be absent or null. A record that
holds no fields may also be given as the list of its attributes in their declared order.

Attributes are read in increasing key order, so of two faulty ones the first in that order is the
one reported.
-/

namespace FormEngine

inductive DecodeError where
  | mismatch
  | notWhole (negative : Bool) (magnitude : Number.Binary64)
  deriving DecidableEq

def DecodeError.message : DecodeError → String
  | .mismatch => "invalid shape"
  | .notWhole negative magnitude =>
      "invalid type: floating point \x60" ++
        String.ofList (Json.Number.text (.floating negative magnitude)) ++ "\x60, expected u64"

abbrev Decoder (Value : Type) := Json → Except DecodeError Value

namespace Decode

def mismatch {Value : Type} : Except DecodeError Value := .error .mismatch

def text : Decoder String
  | .str value => .ok value
  | _ => mismatch

def flag : Decoder Bool
  | .bool value => .ok value
  | _ => mismatch

/-- A whole number of 64 bits without sign. -/
def whole : Decoder Nat
  | .num (.integer (.ofNat value)) => .ok value
  | .num (.floating negative magnitude) => .error (.notWhole negative magnitude)
  | _ => mismatch

def items {Value : Type} (decode : Decoder Value) : List Json → Except DecodeError (List Value)
  | [] => .ok []
  | item :: rest => do
      let value ← decode item
      let values ← items decode rest
      .ok (value :: values)

def list {Value : Type} (decode : Decoder Value) : Decoder (List Value)
  | .arr values => items decode values
  | _ => mismatch

def entries {Value : Type} (decode : Decoder Value) :
    List (String × Json) → Except DecodeError (List (String × Value))
  | [] => .ok []
  | (name, item) :: rest => do
      let value ← decode item
      let values ← entries decode rest
      .ok ((name, value) :: values)

def dictionary {Value : Type} (decode : Decoder Value) : Decoder (List (String × Value))
  | .obj members => entries decode members
  | _ => mismatch

section Records

/-- The attributes of a record; a positional record may leave out the last ones. -/
def attributes (names : List String) : Decoder (List (String × Json))
  | .obj members => .ok members
  | .arr values => if values.length ≤ names.length then .ok (names.zip values) else mismatch
  | _ => mismatch

def required {Value : Type} (members : List (String × Json)) (name : String)
    (decode : Decoder Value) : Except DecodeError Value :=
  match Keyed.find? name members with
  | some value => decode value
  | none => mismatch

def optional {Value : Type} (members : List (String × Json)) (name : String)
    (decode : Decoder Value) : Except DecodeError (Option Value) :=
  match Keyed.find? name members with
  | none => .ok none
  | some .null => .ok none
  | some value => (decode value).map some

end Records

/-- A tag is a text, or an object whose only member is the tag with nothing under it. In what the
type of a field decides about, an empty object counts as nothing too. -/
def tagText (typed : Bool) : Decoder String
  | .str tag => .ok tag
  | .obj [(tag, .null)] => .ok tag
  | .obj [(tag, .obj [])] => if typed then .ok tag else mismatch
  | _ => mismatch

def scalar : Decoder Scalar
  | .str value => .ok (.text value)
  | .bool value => .ok (.flag value)
  | _ => mismatch

def comparison (typed : Bool) : Decoder Comparison := fun value => do
  let tag ← tagText typed value
  .ok (([.equals, .notEquals, .contains, .among].find? fun known => known.tag == tag).getD
    .unrecognized)

def operand : Decoder Operand
  | .str value => .ok (.text value)
  | .bool value => .ok (.flag value)
  | .arr values => (items text values).map .list
  | _ => mismatch

def condition (typed : Bool) : Decoder Condition := fun value => do
  let members ← attributes ["field", "operator", "value"] value
  let field ← required members "field" text
  let comparison ← required members "operator" (comparison typed)
  let operand ← required members "value" operand
  .ok { field, comparison, operand }

def visibilityRule (typed : Bool) : Decoder VisibilityRule := fun value => do
  let members ← attributes ["conditions"] value
  let conditions ← required members "conditions" (list (condition typed))
  .ok { conditions }

def ruleGuard : Decoder RuleGuard := fun value => do
  let members ← attributes ["field", "equals"] value
  let equals ← required members "equals" scalar
  let field ← required members "field" text
  .ok { field, equals }

def validationRule : Decoder ValidationRule := fun value => do
  let members ← attributes
    ["when", "pattern", "message", "minLength", "maxLength", "required"] value
  let maxLength ← optional members "maxLength" whole
  let message ← required members "message" text
  let minLength ← optional members "minLength" whole
  let pattern ← optional members "pattern" text
  let isRequired ← optional members "required" flag
  let guard ← optional members "when" ruleGuard
  .ok { guard, pattern, message, minLength, maxLength, required := isRequired }

def patternRule : Decoder PatternRule := fun value => do
  let members ← attributes ["pattern", "message"] value
  let message ← required members "message" text
  let pattern ← required members "pattern" text
  .ok { pattern, message }

def dynamicValidation : Decoder DynamicValidation := fun value => do
  let members ← attributes ["dependsOn", "rules"] value
  let dependsOn ← required members "dependsOn" text
  let rules ← required members "rules" (dictionary patternRule)
  .ok { dependsOn, rules }

def integration : Decoder Integration := fun value => do
  let members ← attributes ["endpoint", "sourceFields", "targetFields", "debounceMs"] value
  let debounce ← optional members "debounceMs" whole
  let endpoint ← required members "endpoint" text
  let sources ← required members "sourceFields" (list text)
  let targets ← required members "targetFields" (list text)
  .ok { endpoint, sources, targets, debounce }

def choice : Decoder Choice := fun value => do
  let members ← attributes ["label", "value"] value
  let label ← required members "label" text
  let value ← required members "value" text
  .ok { label, value }

/-- The tag of a field, or its position among the tags. -/
def fieldType : Decoder FieldType
  | .str tag =>
      match FieldType.all.find? fun known => known.tag == tag with
      | some known => .ok known
      | none => mismatch
  | .num (.integer (.ofNat position)) =>
      match FieldType.all[position]? with
      | some known => .ok known
      | none => mismatch
  | _ => mismatch

def inputType : Decoder InputType := fun value => do
  let tag ← tagText true value
  match InputType.all.find? fun known => known.tag == tag with
  | some known => .ok known
  | none => mismatch

def fieldInfo (typed : Bool) (members : List (String × Json)) :
    Except DecodeError FieldInfo := do
  let integration ← optional members "apiIntegration" integration
  let default ← optional members "defaultValue" scalar
  let disabled ← optional members "disabled" flag
  let id ← required members "id" text
  let label ← required members "label" text
  let placeholder ← optional members "placeholder" text
  let validations ← optional members "validations" (list validationRule)
  let visibility ← optional members "visibility" (visibilityRule typed)
  .ok { id, label, placeholder, default, disabled, visibility, validations, integration }

/-- A group has no kind of its own here. -/
def leafKind (members : List (String × Json)) : FieldType → Except DecodeError LeafKind
  | .text => (optional members "inputType" inputType).map .text
  | .textarea => (optional members "rows" whole).map .textarea
  | .dropdown => (required members "options" (list choice)).map .dropdown
  | .checkbox => .ok .checkbox
  | .radio => (required members "options" (list choice)).map .radio
  | .validatedText => (optional members "dynamicValidation" dynamicValidation).map .validatedText
  | .group => mismatch

mutual
/-- A field, which is `typed` where it belongs to a group. -/
def field (typed : Bool) : Json → Except DecodeError Field
  | .obj members => do
      let info ← fieldInfo typed members
      let type ← required members "type" fieldType
      if type = .group then
        let description ← optional members "description" text
        let fields ← childFields members
        .ok (.group info description fields)
      else
        let kind ← leafKind members type
        .ok (.leaf info kind)
  | _ => mismatch

/-- The children stand under the first member of that name. -/
def childFields : List (String × Json) → Except DecodeError (List Field)
  | [] => mismatch
  | (name, value) :: rest => if name = "fields" then fieldList true value else childFields rest

def fieldList (typed : Bool) : Json → Except DecodeError (List Field)
  | .arr values => fields typed values
  | _ => mismatch

def fields (typed : Bool) : List Json → Except DecodeError (List Field)
  | [] => .ok []
  | value :: rest => do
      let head ← field typed value
      let tail ← fields typed rest
      .ok (head :: tail)
end

/-- The list of integrations may be absent but not null. -/
def formSchema : Decoder FormSchema := fun value => do
  let members ← attributes ["title", "description", "fields", "apiIntegrations"] value
  let integrations ←
    match Keyed.find? "apiIntegrations" members with
    | none => .ok []
    | some value => list integration value
  let description ← optional members "description" text
  let fields ← required members "fields" (fieldList false)
  let title ← required members "title" text
  .ok { title, description, fields, integrations }

end Decode

end FormEngine
