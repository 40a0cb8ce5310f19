import FormEngine.Contract.Document
import FormEngine.Schema.Basic

/-!
The contract of form schemas. One definition describes a field and refers to itself for the children
of a group; attributes that only some types of field own are governed by clauses on the type.
Unknown keys are refused at every level.
-/

namespace FormEngine.FormSchema

open Contract (check)

section Parts

def anyText : Contract := .node [.types [.string]]
def anyFlag : Contract := .node [.types [.boolean]]
def anyScalar : Contract := .node [.types [.string, .boolean]]
def wholeNumber : Contract := .node [.types [.integer], .notNegative]
def listOf (item : Contract) : Contract := .node [.types [.array], .items item]

/-- Members in key order; no others may be there. -/
def closedRecord (required : List String) (known : List (String × Contract)) : Contract :=
  .node [.types [.object], .required required, .properties true known]

def choiceContract : Contract :=
  closedRecord ["label", "value"] [("label", anyText), ("value", anyText)]

def conditionContract : Contract :=
  closedRecord ["field", "operator", "value"]
    [("field", anyText),
     ("operator",
       .node [.types [.string], .constants ["equals", "notEquals", "contains", "in"]]),
     ("value", .node [.exactlyOne [anyText, anyFlag, listOf anyText]])]

def visibilityContract : Contract :=
  closedRecord ["conditions"] [("conditions", listOf conditionContract)]

def ruleGuardContract : Contract :=
  closedRecord ["field", "equals"] [("equals", anyScalar), ("field", anyText)]

def validationRuleContract : Contract :=
  closedRecord ["message"]
    [("maxLength", wholeNumber), ("message", anyText), ("minLength", wholeNumber),
     ("pattern", anyText), ("required", anyFlag), ("when", ruleGuardContract)]

def patternRuleContract : Contract :=
  closedRecord ["pattern", "message"] [("message", anyText), ("pattern", anyText)]

def dynamicValidationContract : Contract :=
  closedRecord ["dependsOn", "rules"]
    [("dependsOn", anyText),
     ("rules", .node [.types [.object], .everyMember patternRuleContract])]

def integrationContract : Contract :=
  closedRecord ["endpoint", "sourceFields", "targetFields"]
    [("debounceMs", wholeNumber), ("endpoint", anyText),
     ("sourceFields", listOf anyText), ("targetFields", listOf anyText)]

end Parts

section Clauses

def forTypes (types : List FieldType) (keywords : List Keyword) : Contract :=
  .node [.tagged (.oneOf (types.map FieldType.tag)) (.node keywords)]

def onlyForTypes (types : List FieldType) (key : String) : Contract :=
  .node [.tagged (.noneOf (types.map FieldType.tag)) (.node [.properties false [(key, .never)]])]

def typeClauses : List Contract :=
  [forTypes [.group]
    [.required ["fields"],
     .properties false
       [("apiIntegration", .never), ("defaultValue", .never), ("placeholder", .never),
        ("validations", .never)]],
   forTypes [.dropdown, .radio]
    [.required ["options"], .properties false [("options", .node [.minItems 1])]],
   forTypes [.checkbox] [.properties false [("defaultValue", anyFlag)]],
   forTypes [.text, .textarea, .dropdown, .radio, .validatedText]
    [.properties false [("defaultValue", anyText)]],
   onlyForTypes [.dropdown, .radio] "options",
   onlyForTypes [.textarea] "rows",
   onlyForTypes [.text] "inputType",
   onlyForTypes [.validatedText] "dynamicValidation",
   onlyForTypes [.group] "fields",
   onlyForTypes [.group] "description"]

end Clauses

def fieldName : String := "fieldConfig"

def fieldsContract : Contract := listOf (.node [.definition fieldName])

def fieldContract : Contract :=
  .node
    [.types [.object],
     .required ["id", "label", "type"],
     .properties true
       [("apiIntegration", integrationContract),
        ("defaultValue", anyScalar),
        ("description", anyText),
        ("disabled", anyFlag),
        ("dynamicValidation", dynamicValidationContract),
        ("fields", fieldsContract),
        ("id", .node [.types [.string], .minLength 1, .segment]),
        ("inputType", .node [.types [.string], .constants (InputType.all.map InputType.tag)]),
        ("label", anyText),
        ("options", listOf choiceContract),
        ("placeholder", anyText),
        ("rows", wholeNumber),
        ("type", .node [.types [.string], .constants (FieldType.all.map FieldType.tag)]),
        ("validations", listOf validationRuleContract),
        ("visibility", visibilityContract)],
     .all typeClauses]

def definitions : List (String × Contract) := [(fieldName, fieldContract)]

def rootKeywords : List Keyword :=
  [.types [.object],
   .required ["title", "fields"],
   .properties true
     [("apiIntegrations", listOf integrationContract),
      ("description", anyText),
      ("fields", fieldsContract),
      ("title", .node [.types [.string], .minLength 1])]]

def contractViolations (value : Json) : List Contract.Violation :=
  check definitions (.node rootKeywords) value

def contractDocument : Json := Contract.titledDocument "Form Schema" definitions rootKeywords

end FormEngine.FormSchema
