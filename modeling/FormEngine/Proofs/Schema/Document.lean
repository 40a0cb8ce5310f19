import FormEngine.Json.Basic
import FormEngine.Schema.Basic

/-!
What a form schema is, said of the JSON document alone: which members every kind of object may and
must have, what stands under each, and how deep groups nest. Nothing here refers to the contract or
to the model that a document is read into.

Every type of field owns its attributes, so a field is judged by the one list that belongs to its
type.
-/

namespace FormEngine.FormDocument

/-- What may stand at some place of a document. -/
abbrev Shape := Json → Prop

section Attributes

def IsText : Shape := fun value => ∃ text, value = .str text
def IsFlag : Shape := fun value => ∃ flag, value = .bool flag
def IsScalar : Shape := fun value => IsText value ∨ IsFlag value

/-- A whole number that is not negative, written as one: `4.0` is a floating number. -/
def IsWhole : Shape := fun value => ∃ count : Nat, value = .num (.integer count)

def IsTitle : Shape := fun value => ∃ text, value = .str text ∧ text ≠ ""

/-- One segment of a dotted path. -/
def IsId : Shape := fun value => ∃ text, value = .str text ∧ text ≠ "" ∧ '.' ∉ text.toList

def IsOneOf (texts : List String) : Shape := fun value => ∃ text ∈ texts, value = .str text

def IsListOf (item : Shape) : Shape := fun value =>
  ∃ items, value = .arr items ∧ ∀ each ∈ items, item each

def IsFilledListOf (item : Shape) : Shape := fun value =>
  ∃ items, value = .arr items ∧ items ≠ [] ∧ ∀ each ∈ items, item each

def IsDictionaryOf (entry : Shape) : Shape := fun value =>
  ∃ members, value = .obj members ∧ ∀ member ∈ members, entry member.2

/-- An object with all required members and no members but the known ones. -/
def IsRecord (required : List String) (known : List (String × Shape)) : Shape := fun value =>
  ∃ members, value = .obj members ∧
    (∀ name ∈ required, ∃ held, (name, held) ∈ members) ∧
    ∀ member ∈ members, ∃ shape, (member.1, shape) ∈ known ∧ shape member.2

end Attributes

section Parts

def IsChoice : Shape := IsRecord ["label", "value"] [("label", IsText), ("value", IsText)]

def IsOperand : Shape := fun value => IsText value ∨ IsFlag value ∨ IsListOf IsText value

def IsCondition : Shape :=
  IsRecord ["field", "operator", "value"]
    [("field", IsText), ("operator", IsOneOf ["equals", "notEquals", "contains", "in"]),
     ("value", IsOperand)]

def IsVisibility : Shape := IsRecord ["conditions"] [("conditions", IsListOf IsCondition)]

def IsRuleGuard : Shape := IsRecord ["field", "equals"] [("equals", IsScalar), ("field", IsText)]

def IsRule : Shape :=
  IsRecord ["message"]
    [("maxLength", IsWhole), ("message", IsText), ("minLength", IsWhole), ("pattern", IsText),
     ("required", IsFlag), ("when", IsRuleGuard)]

def IsPatternRule : Shape :=
  IsRecord ["pattern", "message"] [("message", IsText), ("pattern", IsText)]

def IsDynamicValidation : Shape :=
  IsRecord ["dependsOn", "rules"]
    [("dependsOn", IsText), ("rules", IsDictionaryOf IsPatternRule)]

def IsIntegration : Shape :=
  IsRecord ["endpoint", "sourceFields", "targetFields"]
    [("debounceMs", IsWhole), ("endpoint", IsText), ("sourceFields", IsListOf IsText),
     ("targetFields", IsListOf IsText)]

end Parts

section Fields

def leafAttributes (default : Shape) : List (String × Shape) :=
  [("placeholder", IsText), ("defaultValue", default), ("validations", IsListOf IsRule),
   ("apiIntegration", IsIntegration)]

/-- The attributes that fields of one type may have beside those of all fields. The children of a
group are left to the recursion over fields. -/
def typeAttributes : FieldType → List (String × Shape)
  | .text => ("inputType", IsOneOf (InputType.all.map InputType.tag)) :: leafAttributes IsText
  | .textarea => ("rows", IsWhole) :: leafAttributes IsText
  | .dropdown => ("options", IsFilledListOf IsChoice) :: leafAttributes IsText
  | .checkbox => leafAttributes IsFlag
  | .radio => ("options", IsFilledListOf IsChoice) :: leafAttributes IsText
  | .validatedText => ("dynamicValidation", IsDynamicValidation) :: leafAttributes IsText
  | .group => [("description", IsText)]

def attributes (type : FieldType) : List (String × Shape) :=
  [("id", IsId), ("label", IsText), ("type", fun value => value = .str type.tag),
   ("disabled", IsFlag), ("visibility", IsVisibility)] ++ typeAttributes type

def requiredAttributes : FieldType → List String
  | .dropdown => ["id", "label", "type", "options"]
  | .radio => ["id", "label", "type", "options"]
  | .group => ["id", "label", "type", "fields"]
  | _ => ["id", "label", "type"]

def idOf (field : Json) : Option Json := field.get? "id"

mutual
def IsField : Json → Prop
  | .obj members =>
      ∃ type : FieldType, ("type", .str type.tag) ∈ members ∧
        (∀ name ∈ requiredAttributes type, ∃ held, (name, held) ∈ members) ∧
        AreAttributes type members
  | _ => False

def AreAttributes (type : FieldType) : List (String × Json) → Prop
  | [] => True
  | (name, value) :: rest =>
      ((∃ shape, (name, shape) ∈ attributes type ∧ shape value) ∨
        (type = .group ∧ name = "fields" ∧ IsFieldList value)) ∧
      AreAttributes type rest

/-- The ids of one list differ; fields of different lists may share an id. -/
def IsFieldList : Json → Prop
  | .arr items => (items.map idOf).Nodup ∧ AreFields items
  | _ => False

def AreFields : List Json → Prop
  | [] => True
  | field :: rest => IsField field ∧ AreFields rest
end

theorem are_attributes_iff (type : FieldType) (members : List (String × Json)) :
    AreAttributes type members ↔ ∀ member ∈ members,
      (∃ shape, (member.1, shape) ∈ attributes type ∧ shape member.2) ∨
        (type = .group ∧ member.1 = "fields" ∧ IsFieldList member.2) := by
  induction members with
  | nil => simp [AreAttributes]
  | cons member rest ih => simp [AreAttributes, ih]

theorem are_fields_iff (items : List Json) : AreFields items ↔ ∀ field ∈ items, IsField field := by
  induction items with
  | nil => simp [AreFields]
  | cons field rest ih => simp [AreFields, ih]

end Fields

def IsForm : Shape :=
  IsRecord ["title", "fields"]
    [("apiIntegrations", IsListOf IsIntegration), ("description", IsText),
     ("fields", IsFieldList), ("title", IsTitle)]

section Depth

mutual
/-- How many groups stand inside one another in a field, itself counted. -/
def fieldDepth : Json → Nat
  | .obj members => childDepth members
  | _ => 0

def childDepth : List (String × Json) → Nat
  | [] => 0
  | (name, value) :: rest => if name = "fields" then listDepth value + 1 else childDepth rest

def listDepth : Json → Nat
  | .arr items => deepest items
  | _ => 0

def deepest : List Json → Nat
  | [] => 0
  | field :: rest => max (fieldDepth field) (deepest rest)
end

def formDepth (form : Json) : Nat :=
  match form.get? "fields" with
  | some list => listDepth list
  | none => 0

end Depth

end FormEngine.FormDocument
