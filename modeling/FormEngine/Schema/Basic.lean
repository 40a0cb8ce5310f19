import FormEngine.Values.Basic

/-!
The model of a form: a titled, ordered tree of fields. A leaf field owns one value and a group nests
further fields; attributes that any field may carry stand beside the choice between the two.
-/

namespace FormEngine

inductive FieldType where
  | text
  | textarea
  | dropdown
  | checkbox
  | radio
  | validatedText
  | group
  deriving DecidableEq

namespace FieldType

def all : List FieldType :=
  [.text, .textarea, .dropdown, .checkbox, .radio, .validatedText, .group]

def tag : FieldType → String
  | .text => "text"
  | .textarea => "textarea"
  | .dropdown => "dropdown"
  | .checkbox => "checkbox"
  | .radio => "radio"
  | .validatedText => "validated-text"
  | .group => "group"

end FieldType

inductive InputType where
  | text
  | password
  | email
  | tel
  | url
  | number
  deriving DecidableEq

namespace InputType

def all : List InputType := [.text, .password, .email, .tel, .url, .number]

def tag : InputType → String
  | .text => "text"
  | .password => "password"
  | .email => "email"
  | .tel => "tel"
  | .url => "url"
  | .number => "number"

end InputType

/-- A choice of a dropdown or radio field. -/
structure Choice where
  label : String
  value : String
  deriving DecidableEq

inductive Scalar where
  | text (value : String)
  | flag (value : Bool)
  deriving DecidableEq

namespace Scalar

def toValue : Scalar → FormValue
  | .text value => .text value
  | .flag value => .flag value

/-- The same kind of value, and equal. -/
def Matches (expected : Scalar) (observed : FormValue) : Prop := observed = expected.toValue

instance (expected : Scalar) (observed : FormValue) : Decidable (expected.Matches observed) :=
  inferInstanceAs (Decidable (observed = expected.toValue))

end Scalar

section Visibility

/-- An operator outside this list is kept as `unrecognized`. -/
inductive Comparison where
  | equals
  | notEquals
  | contains
  | among
  | unrecognized
  deriving DecidableEq

def Comparison.tag : Comparison → String
  | .equals => "equals"
  | .notEquals => "notEquals"
  | .contains => "contains"
  | .among => "in"
  | .unrecognized => "unrecognized"

inductive Operand where
  | text (value : String)
  | flag (value : Bool)
  | list (values : List String)
  deriving DecidableEq

structure Condition where
  field : String
  comparison : Comparison
  operand : Operand
  deriving DecidableEq

structure VisibilityRule where
  conditions : List Condition
  deriving DecidableEq

end Visibility

section Rules

structure RuleGuard where
  field : String
  equals : Scalar
  deriving DecidableEq

/-- One rule may contribute to several constraints, all under its message. -/
structure ValidationRule where
  guard : Option RuleGuard
  pattern : Option String
  message : String
  minLength : Option Nat
  maxLength : Option Nat
  required : Option Bool
  deriving DecidableEq

structure PatternRule where
  pattern : String
  message : String
  deriving DecidableEq

/-- The rule in force is the one under the text that the controlling field holds. -/
structure DynamicValidation where
  dependsOn : String
  rules : List (String × PatternRule)
  deriving DecidableEq

end Rules

structure Integration where
  endpoint : String
  sources : List String
  targets : List String
  debounce : Option Nat
  deriving DecidableEq

/-- Milliseconds; a delay of zero counts as none given. -/
def Integration.effectiveDebounce (fallback : Nat) (integration : Integration) : Nat :=
  match integration.debounce with
  | some delay => if 0 < delay then delay else fallback
  | none => fallback

def Integration.defaultDebounce : Nat := 500

/-- The attributes that every field may carry. -/
structure FieldInfo where
  id : String
  label : String
  placeholder : Option String
  default : Option Scalar
  disabled : Option Bool
  visibility : Option VisibilityRule
  validations : Option (List ValidationRule)
  integration : Option Integration
  deriving DecidableEq

inductive LeafKind where
  | text (inputType : Option InputType)
  | textarea (rows : Option Nat)
  | dropdown (choices : List Choice)
  | checkbox
  | radio (choices : List Choice)
  | validatedText (dynamic : Option DynamicValidation)
  deriving DecidableEq

def LeafKind.fieldType : LeafKind → FieldType
  | .text _ => .text
  | .textarea _ => .textarea
  | .dropdown _ => .dropdown
  | .checkbox => .checkbox
  | .radio _ => .radio
  | .validatedText _ => .validatedText

inductive Field where
  | leaf (info : FieldInfo) (kind : LeafKind)
  | group (info : FieldInfo) (description : Option String) (fields : List Field)

namespace Field

def info : Field → FieldInfo
  | .leaf info _ => info
  | .group info _ _ => info

def id (field : Field) : String := field.info.id

def fieldType : Field → FieldType
  | .leaf _ kind => kind.fieldType
  | .group _ _ _ => .group

def children? : Field → Option (List Field)
  | .leaf _ _ => none
  | .group _ _ fields => some fields

def dynamicValidation : Field → Option DynamicValidation
  | .leaf _ (.validatedText dynamic) => dynamic
  | _ => none

end Field

structure FormSchema where
  title : String
  description : Option String
  fields : List Field
  integrations : List Integration

end FormEngine
