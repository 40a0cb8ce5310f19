import FormEngine.Proofs.Schema.Fields

/-!
Reading fields. A field of the right shape can be read, and reading keeps what the checks that
follow look at: ids, whether they differ, and how deep groups nest.
-/

namespace FormEngine.FormDocument

section Reading

theorem id_is_text (value : Json) (id : IsId value) : IsText value := by
  obtain ⟨text, same, _⟩ := id
  exact ⟨text, same⟩

theorem input_type_reads (value : Json)
    (input : IsOneOf (InputType.all.map InputType.tag) value) : Reads Decode.inputType value := by
  obtain ⟨tag, listed, rfl⟩ := input
  obtain ⟨known, _, rfl⟩ := List.mem_map.mp listed
  exact ⟨known, by cases known <;> rfl⟩

theorem choices_read (value : Json) (choices : IsFilledListOf IsChoice value) :
    Reads (Decode.list Decode.choice) value := by
  obtain ⟨items, same, _, choices⟩ := choices
  exact list_reads IsChoice _ choice_reads value ⟨items, same, choices⟩

/-- What an attribute that several types have is in all of them. -/
def sharedAttributes : List (String × Shape) :=
  [("apiIntegration", IsIntegration), ("defaultValue", IsScalar), ("disabled", IsFlag),
   ("id", IsText), ("label", IsText), ("placeholder", IsText),
   ("validations", IsListOf IsRule), ("visibility", IsVisibility)]

theorem shared_attribute (type : FieldType) (name : String) (shared : Shape)
    (known : (name, shared) ∈ sharedAttributes) :
    name ≠ "fields" ∧
      ∀ shape, (name, shape) ∈ attributes type → ∀ value, shape value → shared value := by
  simp only [sharedAttributes, List.mem_cons, Prod.mk.injEq, List.not_mem_nil, or_false] at known
  rcases known with ⟨rfl, rfl⟩ | ⟨rfl, rfl⟩ | ⟨rfl, rfl⟩ | ⟨rfl, rfl⟩ | ⟨rfl, rfl⟩ | ⟨rfl, rfl⟩ |
    ⟨rfl, rfl⟩ | ⟨rfl, rfl⟩ <;> refine ⟨by decide, ?_⟩ <;>
    cases type <;>
    simp +contextual [attributes, typeAttributes, leafAttributes, id_is_text, IsScalar]

variable (members : List (String × Json)) (type : FieldType) (typed : Bool)
  (each : ∀ member ∈ members,
    (∃ shape, (member.1, shape) ∈ attributes type ∧ shape member.2) ∨
      (type = .group ∧ member.1 = "fields" ∧ IsFieldList member.2))
  (complete : ∀ name ∈ requiredAttributes type, ∃ held, (name, held) ∈ members)

section Attributes

variable {Value : Type} (name : String) (weaker : Shape) (decode : Decoder Value)
  (implies : name ≠ "fields" ∧
    ∀ shape, (name, shape) ∈ attributes type → ∀ value, shape value → weaker value)
  (reads : ∀ held, weaker held → Reads decode held)

include each reads implies

theorem attribute_optional : ∃ result, Decode.optional members name decode = .ok result :=
  optional_reads members name decode fun held present =>
    reads held (attribute_shape members type each name weaker implies.2 implies.1 held present)

include complete in
theorem attribute_required (demanded : name ∈ requiredAttributes type) :
    ∃ result, Decode.required members name decode = .ok result :=
  required_reads members name decode (complete name demanded) fun held present =>
    reads held (attribute_shape members type each name weaker implies.2 implies.1 held present)

end Attributes

include each complete

theorem field_info_reads : ∃ info, Decode.fieldInfo typed members = .ok info := by
  have optional {Value : Type} (name : String) (shared : Shape) (decode : Decoder Value)
      (known : (name, shared) ∈ sharedAttributes) :=
    attribute_optional members type each name shared decode
      (shared_attribute type name shared known)
  have required (name : String) (known : (name, IsText) ∈ sharedAttributes) :=
    attribute_required members type each complete name IsText Decode.text
      (shared_attribute type name IsText known) text_reads
  obtain ⟨integration, readIntegration⟩ := optional "apiIntegration" IsIntegration
    Decode.integration (by simp [sharedAttributes]) integration_reads
  obtain ⟨default, readDefault⟩ := optional "defaultValue" IsScalar
    Decode.scalar (by simp [sharedAttributes]) scalar_reads
  obtain ⟨disabled, readDisabled⟩ := optional "disabled" IsFlag
    Decode.flag (by simp [sharedAttributes]) flag_reads
  obtain ⟨id, readId⟩ := required "id" (by simp [sharedAttributes]) (by cases type <;> decide)
  obtain ⟨label, readLabel⟩ := required "label" (by simp [sharedAttributes])
    (by cases type <;> decide)
  obtain ⟨placeholder, readPlaceholder⟩ := optional "placeholder" IsText
    Decode.text (by simp [sharedAttributes]) text_reads
  obtain ⟨validations, readValidations⟩ := optional "validations" (IsListOf IsRule)
    (Decode.list Decode.validationRule) (by simp [sharedAttributes])
    (list_reads IsRule _ rule_reads)
  obtain ⟨visibility, readVisibility⟩ := optional "visibility" IsVisibility
    (Decode.visibilityRule typed) (by simp [sharedAttributes]) (visibility_reads typed)
  exact ⟨⟨id, label, placeholder, default, disabled, visibility, validations, integration⟩, by
    simp [Decode.fieldInfo, readIntegration, readDefault, readDisabled, readId, readLabel,
      readPlaceholder, readValidations, readVisibility, bind, Except.bind]⟩

theorem leaf_kind_reads (leaf : type ≠ .group) :
    ∃ kind, Decode.leafKind members type = .ok kind := by
  cases type with
  | text =>
      obtain ⟨inputType, read⟩ := attribute_optional members .text each "inputType" _
        Decode.inputType (by simp [attributes, typeAttributes, leafAttributes]) input_type_reads
      exact ⟨.text inputType, by simp [Decode.leafKind, read, Except.map]⟩
  | textarea =>
      obtain ⟨rows, read⟩ := attribute_optional members .textarea each "rows" IsWhole
        Decode.whole (by simp [attributes, typeAttributes, leafAttributes])
        fun held => (whole_reads_iff held).mpr
      exact ⟨.textarea rows, by simp [Decode.leafKind, read, Except.map]⟩
  | dropdown =>
      obtain ⟨choices, read⟩ := attribute_required members .dropdown each complete "options" _
        (Decode.list Decode.choice) (by simp [attributes, typeAttributes, leafAttributes])
        choices_read (by decide)
      exact ⟨.dropdown choices, by simp [Decode.leafKind, read, Except.map]⟩
  | checkbox => exact ⟨.checkbox, rfl⟩
  | radio =>
      obtain ⟨choices, read⟩ := attribute_required members .radio each complete "options" _
        (Decode.list Decode.choice) (by simp [attributes, typeAttributes, leafAttributes])
        choices_read (by decide)
      exact ⟨.radio choices, by simp [Decode.leafKind, read, Except.map]⟩
  | validatedText =>
      obtain ⟨dynamic, read⟩ := attribute_optional members .validatedText each "dynamicValidation"
        _ Decode.dynamicValidation (by simp [attributes, typeAttributes, leafAttributes])
        dynamic_validation_reads
      exact ⟨.validatedText dynamic, by simp [Decode.leafKind, read, Except.map]⟩
  | group => exact absurd rfl leaf

end Reading

section Children

theorem required_text (members : List (String × Json)) (name text : String)
    (read : Decode.required members name Decode.text = .ok text) :
    Keyed.find? name members = some (.str text) := by
  cases found : Keyed.find? name members with
  | none => simp [Decode.required, found, Decode.mismatch] at read
  | some held =>
      cases held with
      | str other => simpa [Decode.required, found, Decode.text] using read
      | _ => simp [Decode.required, found, Decode.text, Decode.mismatch] at read

/-- What a field was read from: its attributes, and by its type its children or its kind. -/
theorem field_parts (typed : Bool) (members : List (String × Json)) (field : Field)
    (read : Decode.field typed (.obj members) = .ok field) :
    ∃ type, Decode.fieldInfo typed members = .ok field.info ∧
      Decode.required members "type" Decode.fieldType = .ok type ∧
      (type = .group → ∃ fields, Decode.childFields members = .ok fields ∧
        (field.DistinctBelow → Field.Distinct fields)) ∧
      (type ≠ .group → ∃ kind, Decode.leafKind members type = .ok kind) := by
  simp only [Decode.field, bind_ok] at read
  obtain ⟨info, readInfo, type, readType, rest⟩ := read
  refine ⟨type, ?_⟩
  by_cases group : type = .group
  · simp only [group, ↓reduceIte, bind_ok] at rest
    obtain ⟨description, _, fields, readFields, made⟩ := rest
    cases made
    exact ⟨readInfo, readType, fun _ => ⟨fields, readFields, id⟩, fun leaf => absurd group leaf⟩
  · simp only [group, ↓reduceIte, bind_ok] at rest
    obtain ⟨kind, readKind, made⟩ := rest
    cases made
    exact ⟨readInfo, readType, fun same => absurd same group, fun _ => ⟨kind, readKind⟩⟩

theorem field_id (typed : Bool) (value : Json) (field : Field)
    (read : Decode.field typed value = .ok field) : idOf value = some (.str field.id) := by
  cases value with
  | obj members =>
      obtain ⟨_, readInfo, _⟩ := field_parts typed members field read
      simp only [Decode.fieldInfo, bind_ok] at readInfo
      obtain ⟨_, _, _, _, _, _, id, readId, _, _, _, _, _, _, _, _, made⟩ := readInfo
      have same : field.id = id := congrArg FieldInfo.id (Except.ok.inj made.symm)
      rw [same]
      exact required_text members "id" id readId
  | _ => simp [Decode.field, Decode.mismatch] at read

theorem fields_ids (typed : Bool) (items : List Json) (fields : List Field)
    (read : Decode.fields typed items = .ok fields) :
    items.map idOf = fields.map fun field => some (.str field.id) := by
  induction items generalizing fields with
  | nil =>
      cases read
      rfl
  | cons item rest ih =>
      simp only [Decode.fields, bind_ok] at read
      obtain ⟨field, readField, others, readOthers, same⟩ := read
      cases same
      simp [field_id typed item field readField, ih others readOthers]

theorem ids_differ_iff (typed : Bool) (items : List Json) (fields : List Field)
    (read : Decode.fields typed items = .ok fields) :
    (items.map idOf).Nodup ↔ (fields.map Field.id).Nodup := by
  rw [fields_ids typed items fields read]
  simp [List.Nodup, List.pairwise_map]

theorem type_tag (type : FieldType) : Decode.fieldType (.str type.tag) = .ok type := by
  cases type <;> rfl

theorem read_type (members : List (String × Json)) (type other : FieldType)
    (found : Keyed.find? "type" members = some (.str type.tag))
    (read : Decode.required members "type" Decode.fieldType = .ok other) : type = other := by
  simp only [Decode.required, found, type_tag] at read
  exact Except.ok.inj read

theorem child_depth_absent (members : List (String × Json))
    (absent : Keyed.find? "fields" members = none) : childDepth members = 0 := by
  induction members with
  | nil => rfl
  | cons member rest ih =>
      obtain ⟨name, value⟩ := member
      by_cases same : name = "fields"
      · simp [Keyed.find?, same] at absent
      · simpa [childDepth, same] using ih (by simpa [Keyed.find?, same] using absent)

theorem group_has_no_fields_shape (shape : Shape) : ("fields", shape) ∉ attributes .group := by
  simp [attributes, typeAttributes]

-- One statement for each kind of place a field can stand in, as the shapes themselves recur.
mutual
theorem field_read (typed : Bool) : (value : Json) → IsField value →
    ∃ field, Decode.field typed value = .ok field ∧ field.groupDepth = fieldDepth value ∧
      field.DistinctBelow
  | .obj members, ⟨type, tagged, complete, attributes⟩ => by
      have each := (are_attributes_iff type members).mp attributes
      have found := tag_found members type each tagged
      obtain ⟨info, readInfo⟩ := field_info_reads members type typed each complete
      have readType : Decode.required members "type" Decode.fieldType = .ok type := by
        simp only [Decode.required, found, type_tag]
      by_cases group : type = .group
      · subst group
        obtain ⟨description, readDescription⟩ := attribute_optional members .group each
          "description" IsText Decode.text (by simp [FormDocument.attributes, typeAttributes])
          text_reads
        obtain ⟨fields, readFields, depth, distinct⟩ := child_fields_read members attributes
          (complete "fields" (by decide))
        refine ⟨.group info description fields, ?_, ?_, distinct⟩
        · simp [Decode.field, readInfo, readType, readDescription, readFields, bind, Except.bind]
        · simp [Field.groupDepth, fieldDepth, depth]
      · obtain ⟨kind, readKind⟩ := leaf_kind_reads members type each complete group
        have absent := foreign_attribute_absent members type each "fields"
          (by cases type <;> simp [FormDocument.attributes, typeAttributes, leafAttributes])
          (fun same => absurd same group)
        refine ⟨.leaf info kind, ?_, ?_, trivial⟩
        · simp [Decode.field, readInfo, readType, group, readKind, bind, Except.bind]
        · simp [Field.groupDepth, fieldDepth, child_depth_absent members absent]

theorem child_fields_read : (members : List (String × Json)) → AreAttributes .group members →
    (∃ held, ("fields", held) ∈ members) →
    ∃ fields, Decode.childFields members = .ok fields ∧
      childDepth members = Field.groupDepthAll fields + 1 ∧ Field.Distinct fields
  | [], _, present => absurd present (by simp)
  | (name, value) :: rest, attributes, present => by
      by_cases same : name = "fields"
      · subst same
        have list : IsFieldList value := by
          rcases attributes.1 with ⟨shape, listed, _⟩ | ⟨_, _, list⟩
          · exact absurd listed (group_has_no_fields_shape shape)
          · exact list
        obtain ⟨fields, read, depth, distinct⟩ := field_list_read true value list
        exact ⟨fields, by simp [Decode.childFields, read], by simp [childDepth, depth], distinct⟩
      · have later : ∃ held, ("fields", held) ∈ rest := by
          simpa [Ne.symm same] using present
        obtain ⟨fields, read, depth, distinct⟩ := child_fields_read rest attributes.2 later
        exact ⟨fields, by simp [Decode.childFields, same, read],
          by simp [childDepth, same, depth], distinct⟩

theorem field_list_read (typed : Bool) : (value : Json) → IsFieldList value →
    ∃ fields, Decode.fieldList typed value = .ok fields ∧
      listDepth value = Field.groupDepthAll fields ∧ Field.Distinct fields
  | .arr items, ⟨differ, each⟩ => by
      obtain ⟨fields, read, depth, distinct⟩ := fields_read typed items each
      exact ⟨fields, by simp [Decode.fieldList, read], by simp [listDepth, depth],
        (ids_differ_iff typed items fields read).mp differ, distinct⟩

theorem fields_read (typed : Bool) : (items : List Json) → AreFields items →
    ∃ fields, Decode.fields typed items = .ok fields ∧
      deepest items = Field.groupDepthAll fields ∧ Field.DistinctBelowAll fields
  | [], _ => ⟨[], rfl, rfl, trivial⟩
  | item :: rest, each => by
      obtain ⟨field, readField, depthField, distinctField⟩ := field_read typed item each.1
      obtain ⟨fields, readFields, depthFields, distinctFields⟩ := fields_read typed rest each.2
      refine ⟨field :: fields, ?_, ?_, distinctField, distinctFields⟩
      · simp [Decode.fields, readField, readFields, bind, Except.bind]
      · simp [deepest, Field.groupDepthAll, depthField, depthFields]
end

end Children

end FormEngine.FormDocument
