import FormEngine.Proofs.Schema.Reading
import FormEngine.Proofs.Schema.Walks

/-!
Which documents are accepted. A field that meets its contract, can be read and repeats no id has its
shape, so the stages of validation together ask for exactly the shape of a form and for groups that
do not nest too deep.
-/

namespace FormEngine.FormDocument

open Contract (Meets Violation)
open FormSchema

section Contract

variable (refer : String → Json → List Violation) (members : List (String × Json))
  (type : FieldType)

/-- The attributes that hold numbers have their shapes. -/
structure WholeNumbers : Prop where
  integration : ∀ held, ("apiIntegration", held) ∈ members →
    Meets refer integrationContract held → IsIntegration held
  validations : ∀ held, ("validations", held) ∈ members →
    IsListOf (Meets refer validationRuleContract) held → IsListOf IsRule held
  rows : type ∈ [FieldType.textarea] → ∀ held, ("rows", held) ∈ members →
    Meets refer wholeNumber held → IsWhole held

theorem whole_numbers (typed : Bool) (field : Field) (ordered : (Json.obj members).Ordered)
    (found : Keyed.find? "type" members = some (.str type.tag))
    (read : Decode.field typed (.obj members) = .ok field) :
    WholeNumbers refer members type := by
  obtain ⟨sorted, ordered⟩ := ordered
  obtain ⟨other, readInfo, readType, _, leaf⟩ := field_parts typed members field read
  obtain rfl := read_type members type other found readType
  simp only [Decode.fieldInfo, bind_ok] at readInfo
  obtain ⟨_, readIntegration, _, _, _, _, _, _, _, _, _, _, _, readRules, _⟩ := readInfo
  constructor
  case integration =>
    intro held present meets
    have notNull : held ≠ .null := by
      rintro rfl
      exact null_meets_no_record refer _ _ meets
    exact integration_of_meets refer held
      (Json.ordered_member members ordered _ held present) meets
      (optional_read members _ _ _ sorted readIntegration held present notNull)
  case validations =>
    rintro held present ⟨items, rfl, each⟩
    obtain ⟨rules, read⟩ := optional_read members _ _ _ sorted readRules _ present (by simp)
    have listed := Json.ordered_member members ordered _ _ present
    refine ⟨items, rfl, fun item inside => ?_⟩
    exact rule_of_meets refer item (Json.ordered_item items listed item inside)
      (each item inside) (item_reads _ items rules read item inside)
  case rows =>
    intro textarea held present meets
    obtain rfl := List.mem_singleton.mp textarea
    obtain ⟨kind, readKind⟩ := leaf (by decide)
    cases readRows : Decode.optional members "rows" Decode.whole with
    | error fault => simp [Decode.leafKind, readRows, Except.map] at readKind
    | ok rows => exact optional_whole refer members "rows" rows sorted readRows held present meets

variable (clauses : Clauses members type) (numbers : WholeNumbers refer members type)

include clauses in
theorem owner (name : String) (owners : List FieldType)
    (owned : (name, owners) ∈ ownedAttributes) (held : Json)
    (present : (name, held) ∈ members) : type ∈ owners := by
  refine Decidable.byContradiction fun other => ?_
  have absent := clauses.owned (name, owners) owned other
  exact (Keyed.find_absent name members).mp absent held present

include clauses in
theorem leaf_owner (name : String)
    (leaf : name ∈ ["apiIntegration", "defaultValue", "placeholder", "validations"])
    (held : Json) (present : (name, held) ∈ members) : type ≠ .group := by
  rintro rfl
  have absent := (clauses.group (by simp)).2 name leaf
  exact (Keyed.find_absent name members).mp absent held present

theorem common_attribute (name : String) (shape : Shape)
    (common : (name, shape) ∈ [("id", IsId), ("label", IsText),
      ("type", fun value => value = .str type.tag), ("disabled", IsFlag),
      ("visibility", IsVisibility)]) : (name, shape) ∈ attributes type :=
  List.mem_append_left _ common

theorem leaf_attribute (leaf : type ≠ .group) (name : String) (shape : Shape)
    (shared : (name, shape) ∈ [("placeholder", IsText), ("validations", IsListOf IsRule),
      ("apiIntegration", IsIntegration)]) : (name, shape) ∈ attributes type := by
  have known : ∀ default, (name, shape) ∈ leafAttributes default := fun default => by
    rcases List.mem_cons.mp shared with first | later
    · exact List.mem_cons.mpr (Or.inl first)
    · exact List.mem_cons_of_mem _ (List.mem_cons_of_mem _ later)
  cases type <;> simp_all [attributes, typeAttributes]

include clauses numbers in
/-- An attribute that the contract of fields admits is one of its type, of the right shape. -/
theorem attribute_of_meets (sorted : Keyed.Sorted members)
    (found : Keyed.find? "type" members = some (.str type.tag)) (name : String)
    (contract : Contract) (known : (name, contract) ∈ knownAttributes)
    (notChildren : name ≠ "fields") (held : Json) (present : (name, held) ∈ members)
    (meets : Meets refer contract held) :
    ∃ shape, (name, shape) ∈ attributes type ∧ shape held := by
  have owner := owner members type clauses
  have leafOnly := leaf_owner members type clauses
  have common := common_attribute type name
  have leaf := fun notGroup => leaf_attribute type notGroup name
  have here := Keyed.sorted_find name held members sorted present
  -- One case for each attribute that the contract knows, in the order of their names.
  simp only [knownAttributes, List.mem_cons, Prod.mk.injEq, List.not_mem_nil, or_false] at known
  rcases known with ⟨rfl, rfl⟩ | ⟨rfl, rfl⟩ | ⟨rfl, rfl⟩ | ⟨rfl, rfl⟩ | ⟨rfl, rfl⟩ |
    ⟨rfl, rfl⟩ | ⟨rfl, rfl⟩ | ⟨rfl, rfl⟩ | ⟨rfl, rfl⟩ | ⟨rfl, rfl⟩ | ⟨rfl, rfl⟩ | ⟨rfl, rfl⟩ |
    ⟨rfl, rfl⟩ | ⟨rfl, rfl⟩ | ⟨rfl, rfl⟩
  · have notGroup := leafOnly "apiIntegration" (by simp) held present
    exact ⟨IsIntegration, leaf notGroup _ (by simp), numbers.integration held present meets⟩
  · have notGroup := leafOnly "defaultValue" (by simp) held present
    by_cases checkbox : type = .checkbox
    · subst checkbox
      exact ⟨IsFlag, by simp [attributes, typeAttributes, leafAttributes],
        clauses.flagDefault (by simp) held here⟩
    · have textual : type ∈ [FieldType.text, .textarea, .dropdown, .radio, .validatedText] := by
        cases type <;> simp_all
      refine ⟨IsText, ?_, clauses.textDefault textual held here⟩
      cases type <;> simp_all [attributes, typeAttributes, leafAttributes]
  · obtain rfl := List.mem_singleton.mp
      (owner "description" [.group] (by simp [ownedAttributes]) held present)
    exact ⟨IsText, by simp [attributes, typeAttributes], (meets_any_text refer held).mp meets⟩
  · exact ⟨IsFlag, common _ (by simp), (meets_any_flag refer held).mp meets⟩
  · obtain rfl := List.mem_singleton.mp
      (owner "dynamicValidation" [.validatedText] (by simp [ownedAttributes]) held present)
    exact ⟨IsDynamicValidation, by simp [attributes, typeAttributes],
      (meets_dynamic_validation refer held).mp meets⟩
  · exact absurd rfl notChildren
  · exact ⟨IsId, common _ (by simp), (meets_id refer held).mp meets⟩
  · obtain rfl := List.mem_singleton.mp
      (owner "inputType" [.text] (by simp [ownedAttributes]) held present)
    exact ⟨IsOneOf (InputType.all.map InputType.tag), by simp [attributes, typeAttributes],
      (meets_one_of refer _ held).mp meets⟩
  · exact ⟨IsText, common _ (by simp), (meets_any_text refer held).mp meets⟩
  · have choice := owner "options" [.dropdown, .radio] (by simp [ownedAttributes]) held present
    obtain ⟨items, rfl, each⟩ := (meets_list_of refer _ held).mp meets
    have filled := (clauses.choices choice).2 items here
    refine ⟨IsFilledListOf IsChoice, ?_, items, rfl, filled, fun item inside =>
      (meets_choice refer item).mp (each item inside)⟩
    cases type <;> simp_all [attributes, typeAttributes]
  · have notGroup := leafOnly "placeholder" (by simp) held present
    exact ⟨IsText, leaf notGroup _ (by simp), (meets_any_text refer held).mp meets⟩
  · have textarea := owner "rows" [.textarea] (by simp [ownedAttributes]) held present
    obtain rfl := List.mem_singleton.mp textarea
    exact ⟨IsWhole, by simp [attributes, typeAttributes],
      numbers.rows textarea held present meets⟩
  · refine ⟨fun value => value = .str type.tag, common _ (by simp), ?_⟩
    exact Option.some.inj (here.symm.trans found)
  · have notGroup := leafOnly "validations" (by simp) held present
    exact ⟨IsListOf IsRule, leaf notGroup _ (by simp),
      numbers.validations held present ((meets_list_of refer _ held).mp meets)⟩
  · exact ⟨IsVisibility, common _ (by simp), (meets_visibility refer held).mp meets⟩

end Contract

section Recursion

theorem child_fields_found (members : List (String × Json)) (value : Json)
    (found : Keyed.find? "fields" members = some value) :
    Decode.childFields members = Decode.fieldList true value := by
  induction members with
  | nil => simp [Keyed.find?] at found
  | cons member rest ih =>
      obtain ⟨name, held⟩ := member
      by_cases same : name = "fields"
      · simp_all [Keyed.find?, Decode.childFields]
      · simp_all [Keyed.find?, Decode.childFields]

theorem group_children (typed : Bool) (members : List (String × Json)) (field : Field)
    (sorted : Keyed.Sorted members)
    (found : Keyed.find? "type" members = some (.str FieldType.group.tag))
    (read : Decode.field typed (.obj members) = .ok field) (held : Json)
    (present : ("fields", held) ∈ members) :
    ∃ fields, Decode.fieldList true held = .ok fields ∧
      (field.DistinctBelow → Field.Distinct fields) := by
  obtain ⟨type, _, readType, group, _⟩ := field_parts typed members field read
  obtain rfl := read_type members .group type found readType
  obtain ⟨fields, readFields, below⟩ := group rfl
  have here := Keyed.sorted_find _ held members sorted present
  rw [child_fields_found members held here] at readFields
  exact ⟨fields, readFields, below⟩

theorem each_distinct (typed : Bool) (items : List Json) (fields : List Field)
    (read : Decode.fields typed items = .ok fields) (distinct : Field.DistinctBelowAll fields) :
    ∀ item ∈ items, ∃ field, Decode.field typed item = .ok field ∧ field.DistinctBelow := by
  induction items generalizing fields with
  | nil => simp
  | cons item rest ih =>
      simp only [Decode.fields, bind_ok] at read
      obtain ⟨field, readField, others, readOthers, made⟩ := read
      cases made
      intro other present
      rcases List.mem_cons.mp present with rfl | later
      · exact ⟨field, readField, distinct.1⟩
      · exact ih others readOthers distinct.2 other later

/-- A list of fields has its shape when the fields in it do. -/
theorem field_list_of_meets (depth : Nat) (typed : Bool) (value : Json) (fields : List Field)
    (below : ∀ item field, item.nesting < depth → item.Ordered →
      Contract.follow definitions depth fieldName item = [] →
      Decode.field typed item = .ok field → field.DistinctBelow → IsField item)
    (shallow : value.nesting ≤ depth) (ordered : value.Ordered)
    (meets : Meets (Contract.follow definitions depth) fieldsContract value)
    (read : Decode.fieldList typed value = .ok fields) (distinct : Field.Distinct fields) :
    IsFieldList value := by
  rw [fieldsContract, meets_list_of] at meets
  obtain ⟨items, rfl, each⟩ := meets
  have readItems : Decode.fields typed items = .ok fields := by
    simpa [Decode.fieldList] using read
  refine ⟨(ids_differ_iff typed items fields readItems).mpr distinct.1, ?_⟩
  refine (are_fields_iff items).mpr fun item inside => ?_
  obtain ⟨field, readField, distinctField⟩ :=
    each_distinct typed items fields readItems distinct.2 item inside
  have nested := Json.nesting_item items item inside
  have meetsItem := each item inside
  simp only [Contract.meets_node, List.mem_singleton, forall_eq, Contract.meets_definition]
    at meetsItem
  refine below item field ?_ (Json.ordered_item items ordered item inside) meetsItem
    readField distinctField
  simp only [Json.nesting] at shallow
  omega

theorem field_type_of_meets (members : List (String × Json)) (sorted : Keyed.Sorted members)
    (refer : String → Json → List Violation) (present : ∃ held, ("type", held) ∈ members)
    (known : ∀ member ∈ members, ∃ contract,
      (member.1, contract) ∈ knownAttributes ∧ Meets refer contract member.2) :
    ∃ type : FieldType, Keyed.find? "type" members = some (.str type.tag) := by
  obtain ⟨held, present⟩ := present
  obtain ⟨contract, stands, meets⟩ := known ("type", held) present
  have tagged : IsOneOf (FieldType.all.map FieldType.tag) held := by
    have only : contract =
        .node [.types [.string], .constants (FieldType.all.map FieldType.tag)] := by
      simpa [knownAttributes] using stands
    exact (meets_one_of refer _ held).mp (only ▸ meets)
  obtain ⟨tag, listed, rfl⟩ := tagged
  obtain ⟨type, _, rfl⟩ := List.mem_map.mp listed
  exact ⟨type, Keyed.sorted_find _ _ members sorted present⟩

theorem required_of_clauses (members : List (String × Json)) (type : FieldType)
    (clauses : Clauses members type)
    (complete : ∀ name ∈ ["id", "label", "type"], ∃ held, (name, held) ∈ members) :
    ∀ name ∈ requiredAttributes type, ∃ held, (name, held) ∈ members := by
  have group := clauses.group
  have choices := clauses.choices
  cases type <;> simp_all [requiredAttributes]

/-- The other direction of `field_meets`, for a field that can be read. -/
theorem field_of_meets (depth : Nat) (typed : Bool) (value : Json) (field : Field)
    (shallow : value.nesting < depth) (ordered : value.Ordered)
    (meets : Contract.follow definitions depth fieldName value = [])
    (read : Decode.field typed value = .ok field) (distinct : field.DistinctBelow) :
    IsField value := by
  induction depth generalizing typed value field with
  | zero => omega
  | succ depth ih =>
      cases value with
      | obj members =>
          have sorted : Keyed.Sorted members := ordered.1
          have satisfied : Meets (Contract.follow definitions depth) fieldContract
              (.obj members) := by
            simpa [Contract.follow, definitions, Keyed.find?, Meets] using meets
          obtain ⟨complete, known, branches⟩ := (meets_field_contract _ members).mp satisfied
          obtain ⟨type, found⟩ := field_type_of_meets members sorted _
            (complete "type" (by simp)) known
          have clauses := (meets_type_clauses _ members type found).mp branches
          have numbers := whole_numbers (Contract.follow definitions depth) members type typed
            field ordered found read
          refine ⟨type, Keyed.find_member _ _ members found,
            required_of_clauses members type clauses complete, ?_⟩
          refine (are_attributes_iff type members).mpr fun member present => ?_
          obtain ⟨name, held⟩ := member
          obtain ⟨contract, listed, meetsHeld⟩ := known (name, held) present
          by_cases children : name = "fields"
          · subst children
            have owned : ("fields", [FieldType.group]) ∈ ownedAttributes := by
              simp [ownedAttributes]
            obtain rfl := List.mem_singleton.mp
              (owner members type clauses "fields" [.group] owned held present)
            right
            have only : contract = fieldsContract := by simpa [knownAttributes] using listed
            subst only
            obtain ⟨fields, readFields, below⟩ :=
              group_children typed members field sorted found read held present
            have nested := Json.nesting_member members "fields" held present
            simp only [Json.nesting] at shallow
            exact ⟨rfl, rfl, field_list_of_meets depth true held fields (ih true) (by omega)
              (Json.ordered_member members ordered.2 _ held present) meetsHeld readFields
              (below distinct)⟩
          · left
            exact attribute_of_meets _ members type clauses numbers sorted found name contract
              listed children held present meetsHeld
      | _ => simp [Decode.field, Decode.mismatch] at read

end Recursion

section Form

theorem root_layout : Contract.node rootKeywords =
    closedRecord ["title", "fields"]
      [("apiIntegrations", listOf integrationContract), ("description", anyText),
       ("fields", fieldsContract), ("title", .node [.types [.string], .minLength 1])] := rfl

theorem meets_title (refer : String → Json → List Violation) (value : Json) :
    Meets refer (.node [.types [.string], .minLength 1]) value ↔ IsTitle value := by
  cases value with
  | str text => simp [Contract.meets_node, Json.Kind.admits, IsTitle, one_le_length]
  | _ => simp [Contract.meets_node, Json.Kind.admits, IsTitle]

theorem root_sorted : Keyed.Sorted
    [("apiIntegrations", listOf integrationContract), ("description", anyText),
     ("fields", fieldsContract), ("title", .node [.types [.string], .minLength 1])] := by
  decide

theorem form_meets (value : Json) (form : IsForm value) : contractViolations value = [] := by
  have lists := field_list_meets (Contract.follow definitions (value.nesting + 1))
    (field_meets (value.nesting + 1))
  have integrations : ∀ list, IsListOf IsIntegration list →
      IsListOf (Meets (Contract.follow definitions (value.nesting + 1)) integrationContract) list :=
    fun list => list_of_mono _ _ list (integration_meets _)
  refine record_meets _ _ _ _ root_sorted ?_ value form
  exact ⟨rfl, fun held list => (meets_list_of _ _ held).mpr (integrations held list),
    rfl, fun held => (meets_any_text _ held).mpr, rfl, lists,
    rfl, fun held => (meets_title _ held).mpr, trivial⟩

theorem form_read (value : Json) (form : IsForm value) :
    ∃ schema, Decode.formSchema value = .ok schema ∧
      Field.groupDepthAll schema.fields = formDepth value ∧ Field.Distinct schema.fields := by
  obtain ⟨members, rfl, complete, each⟩ := form
  have member := record_member _ members each
  obtain ⟨description, readDescription⟩ := record_optional _ members each "description" IsText
    Decode.text (by simp) text_reads
  obtain ⟨title, readTitle⟩ := record_required _ _ members complete each "title" IsTitle
    Decode.text (by simp) (by simp) (fun held ⟨text, same, _⟩ => text_reads held ⟨text, same⟩)
  obtain ⟨list, foundList⟩ : ∃ list, Keyed.find? "fields" members = some list := by
    have present := (Keyed.contains_iff "fields" members).mpr (complete "fields" (by simp))
    exact Option.isSome_iff_exists.mp present
  obtain ⟨fields, readFields, depth, distinct⟩ := field_list_read false list
    (member "fields" IsFieldList (by simp) list (Keyed.find_member _ list members foundList))
  have readRequired : Decode.required members "fields" (Decode.fieldList false) = .ok fields := by
    simp only [Decode.required, foundList, readFields]
  have sameDepth : Field.groupDepthAll fields = formDepth (.obj members) := by
    simp [formDepth, Json.get?, foundList, depth]
  cases foundIntegrations : Keyed.find? "apiIntegrations" members with
  | none =>
      exact ⟨⟨title, description, fields, []⟩, by
        simp [Decode.formSchema, Decode.attributes, foundIntegrations, readDescription,
          readRequired, readTitle, bind, Except.bind], sameDepth, distinct⟩
  | some held =>
      obtain ⟨integrations, readIntegrations⟩ := list_reads IsIntegration Decode.integration
        integration_reads held (member "apiIntegrations" (IsListOf IsIntegration) (by simp) held
          (Keyed.find_member _ held members foundIntegrations))
      exact ⟨⟨title, description, fields, integrations⟩, by
        simp [Decode.formSchema, Decode.attributes, foundIntegrations, readIntegrations,
          readDescription, readRequired, readTitle, bind, Except.bind], sameDepth, distinct⟩

/-- What a form was read from. The list of integrations may be absent. -/
theorem form_parts (members : List (String × Json)) (schema : FormSchema)
    (read : Decode.formSchema (.obj members) = .ok schema) :
    (∀ held, Keyed.find? "apiIntegrations" members = some held →
      Decode.list Decode.integration held = .ok schema.integrations) ∧
    (Keyed.find? "apiIntegrations" members = none → schema.integrations = []) ∧
    Decode.optional members "description" Decode.text = .ok schema.description ∧
    Decode.required members "fields" (Decode.fieldList false) = .ok schema.fields ∧
    Decode.required members "title" Decode.text = .ok schema.title := by
  simp only [Decode.formSchema, Decode.attributes, bind_ok] at read
  obtain ⟨_, same, read⟩ := read
  cases same
  cases found : Keyed.find? "apiIntegrations" members with
  | none =>
      simp only [found, bind_ok] at read
      obtain ⟨_, none, _, readDescription, _, readFields, _, readTitle, made⟩ := read
      cases none
      cases made
      exact ⟨by simp, fun _ => rfl, readDescription, readFields, readTitle⟩
  | some held =>
      simp only [found, bind_ok] at read
      obtain ⟨_, readIntegrations, _, readDescription, _, readFields, _, readTitle, made⟩ := read
      cases made
      exact ⟨fun _ same => Option.some.inj same ▸ readIntegrations, by simp, readDescription,
        readFields, readTitle⟩

theorem form_of_meets (value : Json) (schema : FormSchema) (ordered : value.Ordered)
    (meets : contractViolations value = []) (read : Decode.formSchema value = .ok schema)
    (distinct : Field.Distinct schema.fields) : IsForm value := by
  have satisfied : Meets (Contract.follow definitions (value.nesting + 1)) (.node rootKeywords)
      value := meets
  obtain ⟨members, rfl, _⟩ :=
    (meets_closed_record _ _ _ root_sorted value).mp (root_layout ▸ satisfied)
  obtain ⟨sorted, ordered⟩ := ordered
  obtain ⟨readIntegrations, _, _, readFields, _⟩ := form_parts members schema read
  refine record_of_meets _ _ _ _ root_sorted members ?_ satisfied
  refine ⟨rfl, ?_, rfl, fun value _ => (meets_any_text _ value).mp, rfl, ?_, rfl,
    fun value _ => (meets_title _ value).mp, trivial⟩
  · intro held present meets
    obtain ⟨items, rfl, each⟩ := (meets_list_of _ _ held).mp meets
    have read := readIntegrations _ (Keyed.sorted_find _ _ members sorted present)
    have listed := Json.ordered_member members ordered _ _ present
    refine ⟨items, rfl, fun item inside => ?_⟩
    exact integration_of_meets _ item (Json.ordered_item items listed item inside)
      (each item inside) (item_reads _ items _ read item inside)
  · intro held present meets
    have found := Keyed.sorted_find _ held members sorted present
    simp only [Decode.required, found] at readFields
    have nested := Json.nesting_member members "fields" held present
    refine field_list_of_meets _ false held schema.fields ?_ ?_
      (Json.ordered_member members ordered _ held present) meets readFields distinct
    · exact fun item field => field_of_meets _ false item field
    · simp only [Json.nesting]
      omega

end Form

section Verdict

variable (limits : SchemaLimits) (value : Json)

theorem verdict_of_form (form : IsForm value) :
    ∃ schema, limits.validateRead value =
      if limits.maxGroupDepth < formDepth value then .error (.tooDeep limits.maxGroupDepth)
      else .ok schema := by
  obtain ⟨schema, read, depth, distinct⟩ := form_read value form
  refine ⟨schema, ?_⟩
  simp only [SchemaLimits.read_stages, form_meets value form, read,
    (Field.duplicate_ids_empty schema.fields).mpr distinct, depth]

-- The three stages that look at the document as a whole object to one that is not a form.
theorem verdict_of_other (wellFormed : value.WellFormed) (other : ¬ IsForm value) :
    ∃ fault, limits.validateRead value = .error fault ∧ fault.kind = .schemaViolation := by
  cases satisfied : contractViolations value with
  | cons first rest =>
      exact ⟨.contract (first :: rest), by simp [SchemaLimits.read_stages, satisfied], rfl⟩
  | nil =>
      cases read : Decode.formSchema value with
      | error fault =>
          exact ⟨.model fault, by simp [SchemaLimits.read_stages, satisfied, read], rfl⟩
      | ok schema =>
          cases repeated : Field.duplicateIds schema.fields with
          | cons first rest =>
              exact ⟨.duplicateIds (first :: rest), by
                simp [SchemaLimits.read_stages, satisfied, read, repeated], rfl⟩
          | nil =>
              have distinct := (Field.duplicate_ids_empty schema.fields).mp repeated
              exact absurd (form_of_meets value schema wellFormed.ordered satisfied read distinct) other

theorem validate_read_accepts (wellFormed : value.WellFormed) :
    (∃ schema, limits.validateRead value = .ok schema) ↔
      IsForm value ∧ formDepth value ≤ limits.maxGroupDepth := by
  by_cases form : IsForm value
  · obtain ⟨schema, verdict⟩ := verdict_of_form limits value form
    by_cases deep : limits.maxGroupDepth < formDepth value
    · simp [verdict, deep]
    · simp [verdict, deep, form, Nat.le_of_not_lt deep]
  · obtain ⟨fault, verdict, _⟩ := verdict_of_other limits value wellFormed form
    simp [verdict, form]

/-- A document within the limits of size and nesting is accepted exactly when it is a form whose
groups do not nest too deep. -/
theorem validate_value_accepts (wellFormed : value.WellFormed)
    (small : value.byteSize ≤ limits.maxBytes) (shallow : value.nesting ≤ SchemaLimits.maxNesting) :
    (∃ schema, limits.validateValue value = .ok schema) ↔
      IsForm value ∧ formDepth value ≤ limits.maxGroupDepth := by
  have read : limits.validateValue value = limits.validateRead value := by
    simp [SchemaLimits.value_stages, Nat.not_lt.mpr small, Nat.not_lt.mpr shallow]
  rw [read]
  exact validate_read_accepts limits value wellFormed

end Verdict

def streetField : Json :=
  .obj [("id", .str "street"), ("label", .str "Street"), ("rows", .ofNat 3),
    ("type", .str "textarea")]

def addressField : Json :=
  .obj [("fields", .arr [streetField]), ("id", .str "address"), ("label", .str "Address"),
    ("type", .str "group")]

def contactForm : Json :=
  .obj [("fields", .arr [addressField]), ("title", .str "Contact")]

theorem contact_form_accepted :
    ∃ schema, SchemaLimits.standard.validateValue contactForm = .ok schema := by
  have three : (Json.ofNat 3).WellFormed := ⟨by decide, by decide⟩
  have street : streetField.WellFormed := ⟨by decide, trivial, trivial, three, trivial, trivial⟩
  have address : addressField.WellFormed :=
    ⟨by decide, ⟨street, trivial⟩, trivial, trivial, trivial, trivial⟩
  have wellFormed : contactForm.WellFormed := ⟨by decide, ⟨address, trivial⟩, trivial, trivial⟩
  have rows : IsWhole (.ofNat 3) := ⟨3, rfl⟩
  have street : IsField streetField := by
    refine ⟨.textarea, by simp [FieldType.tag], by simp [requiredAttributes], ?_⟩
    simp [AreAttributes, attributes, typeAttributes, leafAttributes, rows, IsId, IsText,
      FieldType.tag]
  have address : IsField addressField := by
    refine ⟨.group, by simp [FieldType.tag], by simp [requiredAttributes], ?_⟩
    simp [AreAttributes, attributes, typeAttributes, IsFieldList, AreFields, street, IsId, IsText,
      FieldType.tag]
  have form : IsForm contactForm := by
    refine ⟨_, rfl, by simp, ?_⟩
    simp only [List.forall_mem_cons, List.not_mem_nil, false_imp_iff, implies_true, and_true]
    exact ⟨⟨IsFieldList, by simp, by simp, address, trivial⟩,
      ⟨IsTitle, by simp, "Contact", rfl, by decide⟩⟩
  exact (validate_value_accepts .standard contactForm wellFormed (by decide +kernel)
    (by decide +kernel)).mpr ⟨form, by decide +kernel⟩

end FormEngine.FormDocument
