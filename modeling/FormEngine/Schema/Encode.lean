import FormEngine.Json.Basic
import FormEngine.Schema.Basic

/-!
Writing the model of a form as JSON. An optional attribute that is not set, and an empty list of
integrations of the form, are left out; an attribute is written only where its type of field owns
it.
-/

namespace FormEngine.Encode

def text (value : String) : Json := .str value
def flag (value : Bool) : Json := .bool value
def whole (value : Nat) : Json := .ofNat value

def list {Value : Type} (encode : Value → Json) (values : List Value) : Json :=
  .arr (values.map encode)

section Records

/-- The members of a record, in any order; `none` marks one that is left out. -/
def member {Value : Type} (name : String) (encode : Value → Json) (value : Value) :
    List (String × Json) :=
  [(name, encode value)]

def memberIfSet {Value : Type} (name : String) (encode : Value → Json) :
    Option Value → List (String × Json)
  | none => []
  | some value => [(name, encode value)]

end Records

def scalar : Scalar → Json
  | .text value => .str value
  | .flag value => .bool value

def operand : Operand → Json
  | .text value => .str value
  | .flag value => .bool value
  | .list values => list text values

def condition (condition : Condition) : Json :=
  .ofMembers [("field", .str condition.field), ("operator", .str condition.comparison.tag),
    ("value", operand condition.operand)]

def visibilityRule (rule : VisibilityRule) : Json :=
  .ofMembers [("conditions", list condition rule.conditions)]

def ruleGuard (guard : RuleGuard) : Json :=
  .ofMembers [("equals", scalar guard.equals), ("field", .str guard.field)]

def validationRule (rule : ValidationRule) : Json :=
  .ofMembers (memberIfSet "maxLength" whole rule.maxLength ++
    member "message" text rule.message ++
    memberIfSet "minLength" whole rule.minLength ++
    memberIfSet "pattern" text rule.pattern ++
    memberIfSet "required" flag rule.required ++
    memberIfSet "when" ruleGuard rule.guard)

def patternRule (rule : PatternRule) : Json :=
  .ofMembers [("message", .str rule.message), ("pattern", .str rule.pattern)]

def dynamicValidation (dynamic : DynamicValidation) : Json :=
  .ofMembers [("dependsOn", .str dynamic.dependsOn),
    ("rules", .obj (dynamic.rules.map fun entry => (entry.1, patternRule entry.2)))]

def integration (integration : Integration) : Json :=
  .ofMembers (memberIfSet "debounceMs" whole integration.debounce ++
    member "endpoint" text integration.endpoint ++
    member "sourceFields" (list text) integration.sources ++
    member "targetFields" (list text) integration.targets)

def choice (choice : Choice) : Json :=
  .ofMembers [("label", .str choice.label), ("value", .str choice.value)]

def infoMembers (info : FieldInfo) : List (String × Json) :=
  memberIfSet "apiIntegration" integration info.integration ++
    memberIfSet "defaultValue" scalar info.default ++
    memberIfSet "disabled" flag info.disabled ++
    member "id" text info.id ++
    member "label" text info.label ++
    memberIfSet "placeholder" text info.placeholder ++
    memberIfSet "validations" (list validationRule) info.validations ++
    memberIfSet "visibility" visibilityRule info.visibility

def kindMembers : LeafKind → List (String × Json)
  | .text inputType => memberIfSet "inputType" (fun type => .str type.tag) inputType
  | .textarea rows => memberIfSet "rows" whole rows
  | .dropdown choices => member "options" (list choice) choices
  | .checkbox => []
  | .radio choices => member "options" (list choice) choices
  | .validatedText dynamic => memberIfSet "dynamicValidation" Encode.dynamicValidation dynamic

/-- The children are written already. -/
def groupMembers (description : Option String) (children : List Json) : List (String × Json) :=
  memberIfSet "description" text description ++ [("fields", .arr children)]

/-- The attributes of every field and those that its type owns. -/
def fieldMembers (info : FieldInfo) (own : List (String × Json)) (type : FieldType) :
    List (String × Json) :=
  infoMembers info ++ (own ++ [("type", .str type.tag)])

mutual
def field : Field → Json
  | .leaf info kind => .ofMembers (fieldMembers info (kindMembers kind) kind.fieldType)
  | .group info description fields =>
      .ofMembers (fieldMembers info (groupMembers description (fieldItems fields)) .group)

def fieldItems : List Field → List Json
  | [] => []
  | first :: rest => field first :: fieldItems rest
end

def formMembers (schema : FormSchema) : List (String × Json) :=
  (if schema.integrations.isEmpty then []
    else member "apiIntegrations" (list integration) schema.integrations) ++
  memberIfSet "description" text schema.description ++
  [("fields", .arr (fieldItems schema.fields)), ("title", .str schema.title)]

def formSchema (schema : FormSchema) : Json := .ofMembers (formMembers schema)

end FormEngine.Encode
