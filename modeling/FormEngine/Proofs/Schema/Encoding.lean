import FormEngine.Proofs.Schema.Acceptance
import FormEngine.Schema.Encode

/-!
Writing the model of a form and reading it again. Every part is read back as it was written, with
each attribute that is left out still not set, so the whole form is.
-/

namespace FormEngine.Encode

open FormDocument (bind_ok child_fields_found)

/-- What is written is read back, and null stands for nothing. -/
structure Faithful {Value : Type} (encode : Value → Json) (decode : Decoder Value) : Prop where
  read : ∀ value, decode (encode value) = .ok value
  notNull : ∀ value, encode value ≠ .null

section Attributes

variable {Value : Type} (name : String) (encode : Value → Json) (decode : Decoder Value)

@[simp]
theorem member_reverse (value : Value) :
    (member name encode value).reverse = member name encode value := rfl

@[simp]
theorem member_if_set_reverse (value : Option Value) :
    (memberIfSet name encode value).reverse = memberIfSet name encode value := by
  cases value <;> rfl

@[simp]
theorem find_member (key : String) (value : Value) :
    Keyed.find? key (member name encode value) =
      if name = key then some (encode value) else none := rfl

@[simp]
theorem find_member_if_set (key : String) (value : Option Value) :
    Keyed.find? key (memberIfSet name encode value) =
      if name = key then value.map encode else none := by
  cases value with
  | none => simp [memberIfSet, Keyed.find?]
  | some value => rfl

@[simp]
theorem attributes_of_members (names : List String) (entries : List (String × Json)) :
    Decode.attributes names (.ofMembers entries) = .ok (Keyed.ofList entries) := rfl

variable (entries : List (String × Json)) (faithful : Faithful encode decode)

include faithful

theorem required_written (value : Value)
    (found : Keyed.find? name entries.reverse = some (encode value)) :
    Decode.required (Keyed.ofList entries) name decode = .ok value := by
  simp [Decode.required, Keyed.find_of_list, found, faithful.read]

theorem optional_written (value : Option Value)
    (found : Keyed.find? name entries.reverse = value.map encode) :
    Decode.optional (Keyed.ofList entries) name decode = .ok value := by
  cases value with
  | none => simp [Decode.optional, Keyed.find_of_list, found]
  | some value =>
      have notNull := faithful.notNull value
      have read := faithful.read value
      cases encoded : encode value with
      | null => exact absurd encoded notNull
      | _ => simp_all [Decode.optional, Keyed.find_of_list, Except.map]

theorem items_written (values : List Value) :
    Decode.items decode (values.map encode) = .ok values := by
  induction values with
  | nil => rfl
  | cons value rest ih => simp [Decode.items, faithful.read, ih, bind, Except.bind]

theorem list_faithful : Faithful (list encode) (Decode.list decode) where
  read values := items_written encode decode faithful values
  notNull values := by simp [list]

end Attributes

section Parts

theorem text_faithful : Faithful text Decode.text := ⟨fun _ => rfl, by simp [text]⟩

theorem flag_faithful : Faithful flag Decode.flag := ⟨fun _ => rfl, by simp [flag]⟩

theorem whole_faithful : Faithful whole Decode.whole := ⟨fun _ => rfl, by simp [whole, Json.ofNat]⟩

theorem scalar_faithful : Faithful scalar Decode.scalar := by
  constructor <;> rintro (value | value) <;> simp [scalar, Decode.scalar]

theorem operand_faithful : Faithful operand Decode.operand := by
  constructor
  · rintro (value | value | values)
    · rfl
    · rfl
    · have texts := items_written text Decode.text text_faithful values
      simp [operand, Decode.operand, list, texts, Except.map]
  · rintro (value | value | values) <;> simp [operand, list]

/-- An operator that is not known is written by a name that is not known either. -/
theorem comparison_faithful (typed : Bool) :
    Faithful (fun comparison : Comparison => .str comparison.tag) (Decode.comparison typed) := by
  constructor
  · rintro (_ | _ | _ | _ | _) <;> rfl
  · simp

theorem input_type_faithful :
    Faithful (fun type : InputType => .str type.tag) Decode.inputType := by
  constructor
  · rintro (_ | _ | _ | _ | _ | _) <;> rfl
  · simp

theorem field_type_faithful :
    Faithful (fun type : FieldType => .str type.tag) Decode.fieldType := by
  constructor
  · rintro (_ | _ | _ | _ | _ | _ | _) <;> rfl
  · simp

theorem condition_faithful (typed : Bool) : Faithful condition (Decode.condition typed) where
  read value := by
    simp only [Decode.condition, condition, attributes_of_members, bind_ok]
    exact ⟨_, rfl,
      _, required_written "field" text Decode.text _ text_faithful value.field
        (by simp [Keyed.find?, text]),
      _, required_written "operator" _ _ _ (comparison_faithful typed) value.comparison
        (by simp [Keyed.find?]),
      _, required_written "value" operand Decode.operand _ operand_faithful value.operand
        (by simp [Keyed.find?]),
      rfl⟩
  notNull value := by simp [condition, Json.ofMembers]

theorem visibility_faithful (typed : Bool) :
    Faithful visibilityRule (Decode.visibilityRule typed) where
  read rule := by
    simp only [Decode.visibilityRule, visibilityRule, attributes_of_members, bind_ok]
    exact ⟨_, rfl,
      _, required_written "conditions" _ _ _ (list_faithful _ _ (condition_faithful typed))
        rule.conditions (by simp [Keyed.find?]),
      rfl⟩
  notNull rule := by simp [visibilityRule, Json.ofMembers]

theorem rule_guard_faithful : Faithful ruleGuard Decode.ruleGuard where
  read guard := by
    simp only [Decode.ruleGuard, ruleGuard, attributes_of_members, bind_ok]
    exact ⟨_, rfl,
      _, required_written "equals" scalar Decode.scalar _ scalar_faithful guard.equals
        (by simp [Keyed.find?]),
      _, required_written "field" text Decode.text _ text_faithful guard.field
        (by simp [Keyed.find?, text]),
      rfl⟩
  notNull guard := by simp [ruleGuard, Json.ofMembers]

theorem rule_faithful : Faithful validationRule Decode.validationRule where
  read rule := by
    simp only [Decode.validationRule, validationRule, attributes_of_members, bind_ok]
    exact ⟨_, rfl,
      _, optional_written "maxLength" whole Decode.whole _ whole_faithful rule.maxLength
        (by simp [Keyed.find_append]),
      _, required_written "message" text Decode.text _ text_faithful rule.message
        (by simp [Keyed.find_append]),
      _, optional_written "minLength" whole Decode.whole _ whole_faithful rule.minLength
        (by simp [Keyed.find_append]),
      _, optional_written "pattern" text Decode.text _ text_faithful rule.pattern
        (by simp [Keyed.find_append]),
      _, optional_written "required" flag Decode.flag _ flag_faithful rule.required
        (by simp [Keyed.find_append]),
      _, optional_written "when" ruleGuard Decode.ruleGuard _ rule_guard_faithful rule.guard
        (by simp [Keyed.find_append]),
      rfl⟩
  notNull rule := by simp [validationRule, Json.ofMembers]

theorem pattern_rule_faithful : Faithful patternRule Decode.patternRule where
  read rule := by
    simp only [Decode.patternRule, patternRule, attributes_of_members, bind_ok]
    exact ⟨_, rfl,
      _, required_written "message" text Decode.text _ text_faithful rule.message
        (by simp [Keyed.find?, text]),
      _, required_written "pattern" text Decode.text _ text_faithful rule.pattern
        (by simp [Keyed.find?, text]),
      rfl⟩
  notNull rule := by simp [patternRule, Json.ofMembers]

theorem entries_written (rules : List (String × PatternRule)) :
    Decode.entries Decode.patternRule (rules.map fun entry => (entry.1, patternRule entry.2)) =
      .ok rules := by
  induction rules with
  | nil => rfl
  | cons entry rest ih =>
      simp [Decode.entries, pattern_rule_faithful.read, ih, bind, Except.bind]

theorem dynamic_validation_faithful : Faithful dynamicValidation Decode.dynamicValidation where
  read dynamic := by
    have rules : Faithful
        (fun rules : List (String × PatternRule) =>
          .obj (rules.map fun entry => (entry.1, patternRule entry.2)))
        (Decode.dictionary Decode.patternRule) := ⟨entries_written, by simp⟩
    simp only [Decode.dynamicValidation, dynamicValidation, attributes_of_members, bind_ok]
    exact ⟨_, rfl,
      _, required_written "dependsOn" text Decode.text _ text_faithful dynamic.dependsOn
        (by simp [Keyed.find?, text]),
      _, required_written "rules" _ _ _ rules dynamic.rules (by simp [Keyed.find?]),
      rfl⟩
  notNull dynamic := by simp [dynamicValidation, Json.ofMembers]

theorem integration_faithful : Faithful integration Decode.integration where
  read value := by
    simp only [Decode.integration, integration, attributes_of_members, bind_ok]
    exact ⟨_, rfl,
      _, optional_written "debounceMs" whole Decode.whole _ whole_faithful value.debounce
        (by simp [Keyed.find_append]),
      _, required_written "endpoint" text Decode.text _ text_faithful value.endpoint
        (by simp [Keyed.find_append]),
      _, required_written "sourceFields" _ _ _ (list_faithful _ _ text_faithful) value.sources
        (by simp [Keyed.find_append]),
      _, required_written "targetFields" _ _ _ (list_faithful _ _ text_faithful) value.targets
        (by simp [Keyed.find_append]),
      rfl⟩
  notNull value := by simp [integration, Json.ofMembers]

theorem choice_faithful : Faithful choice Decode.choice where
  read value := by
    simp only [Decode.choice, choice, attributes_of_members, bind_ok]
    exact ⟨_, rfl,
      _, required_written "label" text Decode.text _ text_faithful value.label
        (by simp [Keyed.find?, text]),
      _, required_written "value" text Decode.text _ text_faithful value.value
        (by simp [Keyed.find?, text]),
      rfl⟩
  notNull value := by simp [choice, Json.ofMembers]

end Parts

section Fields

def infoNames : List String :=
  ["apiIntegration", "defaultValue", "disabled", "id", "label", "placeholder", "validations",
    "visibility"]

/-- The attributes that only some types of field own. -/
def kindNames : FieldType → List String
  | .text => ["inputType"]
  | .textarea => ["rows"]
  | .dropdown => ["options"]
  | .checkbox => []
  | .radio => ["options"]
  | .validatedText => ["dynamicValidation"]
  | .group => ["description", "fields"]

def fieldNames (type : FieldType) : List String := "type" :: (infoNames ++ kindNames type)

theorem kind_names_apart (type : FieldType) :
    ∀ name ∈ kindNames type, name ∉ infoNames ∧ name ≠ "type" := by
  cases type <;> decide

/-- Attributes that a type owns bear no other names. -/
def Owned (type : FieldType) (own : List (String × Json)) : Prop :=
  ∀ name, name ∉ kindNames type → Keyed.find? name own.reverse = none

theorem kind_owned (kind : LeafKind) : Owned kind.fieldType (kindMembers kind) := by
  intro name foreign
  cases kind <;> simp_all [kindNames, kindMembers, LeafKind.fieldType, Keyed.find?, eq_comm]

theorem group_owned (description : Option String) (children : List Json) :
    Owned .group (groupMembers description children) := by
  intro name foreign
  simp_all [kindNames, groupMembers, Keyed.find?, eq_comm]

theorem find_info_foreign (info : FieldInfo) (name : String) (foreign : name ∉ infoNames) :
    Keyed.find? name (infoMembers info).reverse = none := by
  simp_all [infoNames, infoMembers, Keyed.find_append, eq_comm]

section Lookups

variable (info : FieldInfo) (own : List (String × Json)) (type : FieldType)

theorem find_field_members (name : String) :
    Keyed.find? name (fieldMembers info own type).reverse =
      (if "type" = name then some (.str type.tag) else none).or
        ((Keyed.find? name own.reverse).or (Keyed.find? name (infoMembers info).reverse)) := by
  simp only [fieldMembers, List.reverse_append, Keyed.find_append, Option.or_assoc]
  rfl

theorem find_type : Keyed.find? "type" (fieldMembers info own type).reverse =
    some (.str type.tag) := by
  simp [find_field_members]

variable (owned : Owned type own)

theorem find_own (name : String) (listed : name ∈ kindNames type) :
    Keyed.find? name (fieldMembers info own type).reverse = Keyed.find? name own.reverse := by
  obtain ⟨notInfo, notType⟩ := kind_names_apart type name listed
  simp [find_field_members, Ne.symm notType, find_info_foreign info name notInfo]

include owned

theorem find_info (name : String) (listed : name ∈ infoNames) :
    Keyed.find? name (fieldMembers info own type).reverse =
      Keyed.find? name (infoMembers info).reverse := by
  have notOwn : name ∉ kindNames type := fun own => (kind_names_apart type name own).1 listed
  have notType : "type" ≠ name := by
    rintro rfl
    exact absurd listed (by decide)
  simp [find_field_members, notType, owned name notOwn]

theorem find_field_foreign (name : String) (foreign : name ∉ fieldNames type) :
    Keyed.find? name (fieldMembers info own type).reverse = none := by
  simp only [fieldNames, List.mem_cons, List.mem_append, not_or] at foreign
  obtain ⟨notType, notInfo, notOwn⟩ := foreign
  simp [find_field_members, Ne.symm notType, owned name notOwn, find_info_foreign info name notInfo]

theorem info_written (typed : Bool) :
    Decode.fieldInfo typed (Keyed.ofList (fieldMembers info own type)) = .ok info := by
  have found := find_info info own type owned
  simp only [infoNames, List.forall_mem_cons, List.not_mem_nil, false_imp_iff, implies_true,
    and_true] at found
  simp only [Decode.fieldInfo, bind_ok]
  exact ⟨
    _, optional_written "apiIntegration" integration Decode.integration _ integration_faithful
      info.integration (by simp [found, infoMembers, Keyed.find_append]),
    _, optional_written "defaultValue" scalar Decode.scalar _ scalar_faithful
      info.default (by simp [found, infoMembers, Keyed.find_append]),
    _, optional_written "disabled" flag Decode.flag _ flag_faithful
      info.disabled (by simp [found, infoMembers, Keyed.find_append]),
    _, required_written "id" text Decode.text _ text_faithful
      info.id (by simp [found, infoMembers, Keyed.find_append]),
    _, required_written "label" text Decode.text _ text_faithful
      info.label (by simp [found, infoMembers, Keyed.find_append]),
    _, optional_written "placeholder" text Decode.text _ text_faithful
      info.placeholder (by simp [found, infoMembers, Keyed.find_append]),
    _, optional_written "validations" _ _ _ (list_faithful _ _ rule_faithful)
      info.validations (by simp [found, infoMembers, Keyed.find_append]),
    _, optional_written "visibility" visibilityRule _ _ (visibility_faithful typed)
      info.visibility (by simp [found, infoMembers, Keyed.find_append]),
    rfl⟩

end Lookups

theorem kind_written (info : FieldInfo) (kind : LeafKind) :
    Decode.leafKind (Keyed.ofList (fieldMembers info (kindMembers kind) kind.fieldType))
      kind.fieldType = .ok kind := by
  have found := find_own info (kindMembers kind) kind.fieldType
  cases kind with
  | text inputType =>
      have read := optional_written "inputType" _ _ _ input_type_faithful inputType
        ((found _ (by simp [kindNames, LeafKind.fieldType])).trans (by simp [kindMembers]))
      exact congrArg (Except.map LeafKind.text) read
  | textarea rows =>
      have read := optional_written "rows" _ _ _ whole_faithful rows
        ((found _ (by simp [kindNames, LeafKind.fieldType])).trans (by simp [kindMembers]))
      exact congrArg (Except.map LeafKind.textarea) read
  | dropdown choices =>
      have read := required_written "options" _ _ _ (list_faithful _ _ choice_faithful) choices
        ((found _ (by simp [kindNames, LeafKind.fieldType])).trans (by simp [kindMembers]))
      exact congrArg (Except.map LeafKind.dropdown) read
  | checkbox => rfl
  | radio choices =>
      have read := required_written "options" _ _ _ (list_faithful _ _ choice_faithful) choices
        ((found _ (by simp [kindNames, LeafKind.fieldType])).trans (by simp [kindMembers]))
      exact congrArg (Except.map LeafKind.radio) read
  | validatedText dynamic =>
      have read := optional_written "dynamicValidation" _ _ _ dynamic_validation_faithful dynamic
        ((found _ (by simp [kindNames, LeafKind.fieldType])).trans (by simp [kindMembers]))
      exact congrArg (Except.map LeafKind.validatedText) read

theorem leaf_written (typed : Bool) (info : FieldInfo) (kind : LeafKind) :
    Decode.field typed (field (.leaf info kind)) = .ok (.leaf info kind) := by
  have readInfo := info_written info _ _ (kind_owned kind) typed
  have readType := required_written "type" _ _ _ field_type_faithful kind.fieldType
    (find_type info (kindMembers kind) kind.fieldType)
  have readKind := kind_written info kind
  have notGroup : kind.fieldType ≠ .group := by cases kind <;> simp [LeafKind.fieldType]
  simp [field, Json.ofMembers, Decode.field, readInfo, readType, readKind, notGroup, bind,
    Except.bind]

theorem group_written (typed : Bool) (info : FieldInfo) (description : Option String)
    (fields : List Field) (children : Decode.fields true (fieldItems fields) = .ok fields) :
    Decode.field typed (field (.group info description fields)) =
      .ok (.group info description fields) := by
  have own := find_own info (groupMembers description (fieldItems fields)) .group
  have readInfo := info_written info _ _ (group_owned description (fieldItems fields)) typed
  have readType := required_written "type" _ _ _ field_type_faithful .group
    (find_type info (groupMembers description (fieldItems fields)) .group)
  have readDescription := optional_written "description" _ _ _ text_faithful description
    ((own _ (by simp [kindNames])).trans (by simp [groupMembers, Keyed.find?]))
  have found : Keyed.find? "fields" (Keyed.ofList
      (fieldMembers info (groupMembers description (fieldItems fields)) .group)) =
        some (.arr (fieldItems fields)) := by
    rw [Keyed.find_of_list, own "fields" (by simp [kindNames])]
    simp [groupMembers, Keyed.find?]
  have readFields := child_fields_found _ _ found
  simp [field, Json.ofMembers, Decode.field, readInfo, readType, readDescription, readFields,
    Decode.fieldList, children, bind, Except.bind]

mutual
theorem field_written (typed : Bool) : (written : Field) →
    Decode.field typed (field written) = .ok written
  | .leaf info kind => leaf_written typed info kind
  | .group info description fields =>
      group_written typed info description fields (fields_written true fields)

theorem fields_written (typed : Bool) : (fields : List Field) →
    Decode.fields typed (fieldItems fields) = .ok fields
  | [] => rfl
  | first :: rest => by
      simp [fieldItems, Decode.fields, field_written typed first, fields_written typed rest, bind,
        Except.bind]
end

end Fields

section Form

variable (schema : FormSchema)

theorem find_form_member (name : String) :
    Keyed.find? name (formMembers schema).reverse =
      if "title" = name then some (.str schema.title)
      else if "fields" = name then some (.arr (fieldItems schema.fields))
      else if "description" = name then schema.description.map text
      else if "apiIntegrations" = name then
        (if schema.integrations.isEmpty then none
          else some (list integration schema.integrations))
      else none := by
  by_cases title : "title" = name
  · simp [formMembers, Keyed.find?, title]
  · by_cases fields : "fields" = name
    · subst fields
      simp [formMembers, Keyed.find?]
    · by_cases description : "description" = name
      · subst description
        by_cases empty : schema.integrations = [] <;>
          simp [formMembers, Keyed.find_append, Keyed.find?, empty]
      · by_cases empty : schema.integrations = [] <;>
          simp [formMembers, Keyed.find_append, Keyed.find?, title, fields, description, empty]

/-- A form that is written and read again is the form. -/
theorem form_written :
    Decode.formSchema (formSchema schema) = .ok schema := by
  have readDescription := optional_written "description" _ _ (formMembers schema) text_faithful
    schema.description (by simp [find_form_member])
  have readTitle := required_written "title" text _ (formMembers schema) text_faithful
    schema.title (by simp [find_form_member, text])
  have readFields : Decode.required (Keyed.ofList (formMembers schema)) "fields"
      (Decode.fieldList false) = .ok schema.fields := by
    have found : Keyed.find? "fields" (Keyed.ofList (formMembers schema)) =
        some (.arr (fieldItems schema.fields)) := by
      simp [Keyed.find_of_list, find_form_member]
    simpa [Decode.required, found, Decode.fieldList] using fields_written false schema.fields
  have listed := find_form_member schema "apiIntegrations"
  rw [← Keyed.find_of_list] at listed
  have integrations := (list_faithful _ _ integration_faithful).read schema.integrations
  show Decode.formSchema (.ofMembers (formMembers schema)) = .ok schema
  by_cases empty : schema.integrations.isEmpty = true
  · have none : schema.integrations = [] := List.isEmpty_iff.mp empty
    simp only [empty, ↓reduceIte] at listed
    simp [Decode.formSchema, listed, readDescription, readFields, readTitle, bind, Except.bind,
      ← none]
  · simp only [empty, Bool.false_eq_true, ↓reduceIte] at listed
    simp [Decode.formSchema, listed, integrations, readDescription, readFields, readTitle, bind,
      Except.bind]

end Form

end FormEngine.Encode
