import FormEngine.Proofs.Json.Size
import FormEngine.Proofs.Schema.Admission
import FormEngine.Proofs.Schema.Printed
import FormEngine.Proofs.Schema.Restoring
import FormEngine.Proofs.Schema.Texts

/-!
Documents of forms and the model of a form are inverse to one another. Reading back what was written
gives the model for every form, and writing what was read gives the document for every accepted one,
but for an empty list of integrations, which is not written.
-/

namespace FormEngine.FormDocument

open Encode (infoNames kindNames fieldNames)

section Attributes

variable (members : List (String × Json)) (type : FieldType) (typed : Bool)
  (ordered : Json.OrderedMembers members)
  (each : ∀ member ∈ members,
    (∃ shape, (member.1, shape) ∈ attributes type ∧ shape member.2) ∨
      (type = .group ∧ member.1 = "fields" ∧ IsFieldList member.2))

include each in
theorem member_named : ∀ member ∈ members, member.1 ∈ fieldNames type := by
  have listed : ∀ entry ∈ attributes type, entry.1 ∈ fieldNames type := by
    cases type <;>
      simp [attributes, typeAttributes, leafAttributes, fieldNames, infoNames, kindNames]
  intro member present
  rcases each member present with ⟨shape, known, _⟩ | ⟨rfl, same, _⟩
  · exact listed (member.1, shape) known
  · simp [same, fieldNames, kindNames]

include ordered each

theorem info_restored (info : FieldInfo) (read : Decode.fieldInfo typed members = .ok info) :
    ∀ name ∈ infoNames,
      Keyed.find? name (Encode.infoMembers info).reverse = Keyed.find? name members := by
  have holds (name : String) (shared : Shape) (known : (name, shared) ∈ sharedAttributes)
      (held : Json) (present : (name, held) ∈ members) : shared held :=
    attribute_shape members type each name shared (shared_attribute type name shared known).2
      (shared_attribute type name shared known).1 held present
  simp only [Decode.fieldInfo, bind_ok] at read
  obtain ⟨integration, readIntegration, default, readDefault, disabled, readDisabled, id, readId,
    label, readLabel, placeholder, readPlaceholder, rules, readRules, visibility, readVisibility,
    made⟩ := read
  cases made
  have foundIntegration := optional_restored _ _ _ integration_restored members _ ordered
    (holds "apiIntegration" _ (by simp [sharedAttributes])) (by simp [IsIntegration, IsRecord]) _
    readIntegration
  have foundDefault := optional_restored _ _ _ scalar_restored members _ ordered
    (holds "defaultValue" _ (by simp [sharedAttributes])) (by simp [IsScalar, IsText, IsFlag]) _
    readDefault
  have foundDisabled := optional_restored _ _ _ flag_restored members _ ordered
    (holds "disabled" _ (by simp [sharedAttributes])) (by simp [IsFlag]) _ readDisabled
  have foundId := required_restored _ _ _ text_restored members _ ordered
    (holds "id" _ (by simp [sharedAttributes])) _ readId
  have foundLabel := required_restored _ _ _ text_restored members _ ordered
    (holds "label" _ (by simp [sharedAttributes])) _ readLabel
  have foundPlaceholder := optional_restored _ _ _ text_restored members _ ordered
    (holds "placeholder" _ (by simp [sharedAttributes])) (by simp [IsText]) _ readPlaceholder
  have foundRules := optional_restored _ _ _ (list_restored _ _ _ rule_restored) members _ ordered
    (holds "validations" _ (by simp [sharedAttributes])) (by simp [IsListOf]) _ readRules
  have foundVisibility := optional_restored _ _ _ (visibility_restored typed) members _ ordered
    (holds "visibility" _ (by simp [sharedAttributes])) (by simp [IsVisibility, IsRecord]) _
    readVisibility
  simp [infoNames, Encode.infoMembers, Keyed.find_append, foundIntegration, foundDefault,
    foundDisabled, foundId, foundLabel, foundPlaceholder, foundRules, foundVisibility]

omit ordered each in
theorem map_ok {Value Result : Type} (reading : Except DecodeError Value)
    (build : Value → Result) (result : Result) :
    reading.map build = .ok result ↔ ∃ value, reading = .ok value ∧ build value = result := by
  cases reading <;> simp [Except.map]

theorem kind_restored (kind : LeafKind) (read : Decode.leafKind members type = .ok kind) :
    kind.fieldType = type ∧ ∀ name ∈ kindNames type,
      Keyed.find? name (Encode.kindMembers kind).reverse = Keyed.find? name members := by
  have holds := attribute_shape members type each
  cases type with
  | text =>
      obtain ⟨inputType, taken, rfl⟩ := (map_ok _ _ kind).mp read
      have found := optional_restored _ _ _ input_type_restored members "inputType" ordered
        (holds "inputType" _ (by simp [attributes, typeAttributes, leafAttributes]) (by decide))
        (by simp [IsOneOf]) inputType taken
      exact ⟨rfl, by simp [kindNames, Encode.kindMembers, found]⟩
  | textarea =>
      obtain ⟨rows, taken, rfl⟩ := (map_ok _ _ kind).mp read
      have found := optional_restored _ _ _ whole_restored members "rows" ordered
        (holds "rows" _ (by simp [attributes, typeAttributes, leafAttributes]) (by decide))
        (by simp [IsWhole]) rows taken
      exact ⟨rfl, by simp [kindNames, Encode.kindMembers, found]⟩
  | dropdown =>
      obtain ⟨choices, taken, rfl⟩ := (map_ok _ _ kind).mp read
      have found := required_restored _ _ _ choices_restored members "options" ordered
        (holds "options" _ (by simp [attributes, typeAttributes, leafAttributes]) (by decide))
        choices taken
      exact ⟨rfl, by simp [kindNames, Encode.kindMembers, found]⟩
  | checkbox =>
      cases read
      exact ⟨rfl, by simp [kindNames]⟩
  | radio =>
      obtain ⟨choices, taken, rfl⟩ := (map_ok _ _ kind).mp read
      have found := required_restored _ _ _ choices_restored members "options" ordered
        (holds "options" _ (by simp [attributes, typeAttributes, leafAttributes]) (by decide))
        choices taken
      exact ⟨rfl, by simp [kindNames, Encode.kindMembers, found]⟩
  | validatedText =>
      obtain ⟨dynamic, taken, rfl⟩ := (map_ok _ _ kind).mp read
      have found := optional_restored _ _ _ dynamic_validation_restored members
        "dynamicValidation" ordered
        (holds "dynamicValidation" _ (by simp [attributes, typeAttributes, leafAttributes])
          (by decide))
        (by simp [IsDynamicValidation, IsRecord]) dynamic taken
      exact ⟨rfl, by simp [kindNames, Encode.kindMembers, found]⟩
  | group => simp [Decode.leafKind, Decode.mismatch] at read

variable (sorted : Keyed.Sorted members)
  (found : Keyed.find? "type" members = some (.str type.tag)) (info : FieldInfo)
  (readInfo : Decode.fieldInfo typed members = .ok info)

include sorted found readInfo

theorem field_members_restored (own : List (String × Json)) (owned : Encode.Owned type own)
    (same : ∀ name ∈ kindNames type,
      Keyed.find? name own.reverse = Keyed.find? name members) :
    Json.ofMembers (Encode.fieldMembers info own type) = .obj members := by
  have infos := info_restored members type typed ordered each info readInfo
  refine members_restored members (fieldNames type) sorted (member_named members type each) _ ?_
    (Encode.find_field_foreign info own type owned)
  intro name listed
  rcases List.mem_cons.mp listed with rfl | listed
  · rw [Encode.find_type, found]
  · rcases List.mem_append.mp listed with common | special
    · rw [Encode.find_info info own type owned name common, infos name common]
    · rw [Encode.find_own info own type name special, same name special]

theorem leaf_restored (kind : LeafKind) (readKind : Decode.leafKind members type = .ok kind) :
    Encode.field (.leaf info kind) = .obj members := by
  obtain ⟨rfl, same⟩ := kind_restored members type ordered each kind readKind
  exact field_members_restored members kind.fieldType typed ordered each sorted found info readInfo
    _ (Encode.kind_owned kind) same

end Attributes

section Fields

theorem group_restored (members : List (String × Json)) (typed : Bool) (info : FieldInfo)
    (description : Option String) (fields : List Field) (sorted : Keyed.Sorted members)
    (ordered : Json.OrderedMembers members)
    (each : ∀ member ∈ members,
      (∃ shape, (member.1, shape) ∈ attributes .group ∧ shape member.2) ∨
        (FieldType.group = .group ∧ member.1 = "fields" ∧ IsFieldList member.2))
    (found : Keyed.find? "type" members = some (.str FieldType.group.tag))
    (readInfo : Decode.fieldInfo typed members = .ok info)
    (readDescription : Decode.optional members "description" Decode.text = .ok description)
    (children : Keyed.find? "fields" members = some (.arr (Encode.fieldItems fields))) :
    Encode.field (.group info description fields) = .obj members := by
  have foundDescription := optional_restored _ _ _ text_restored members "description" ordered
    (attribute_shape members .group each "description" IsText
      (by simp [attributes, typeAttributes]) (by decide))
    (by simp [IsText]) description readDescription
  refine field_members_restored members .group typed ordered each sorted found info readInfo _
    (Encode.group_owned description _) ?_
  simp [kindNames, Encode.groupMembers, Keyed.find?, foundDescription, children]

mutual
theorem field_restored (typed : Bool) : (value : Json) → value.Ordered → IsField value →
    (field : Field) → Decode.field typed value = .ok field → Encode.field field = value
  | .obj members, ⟨sorted, ordered⟩, ⟨type, tagged, _, attributes⟩, field, read => by
      have each := (are_attributes_iff type members).mp attributes
      have found := tag_found members type each tagged
      simp only [Decode.field, bind_ok] at read
      obtain ⟨info, readInfo, other, readType, rest⟩ := read
      obtain rfl := read_type members type other found readType
      by_cases group : type = .group
      · subst group
        simp only [↓reduceIte, bind_ok] at rest
        obtain ⟨description, readDescription, fields, readFields, made⟩ := rest
        cases made
        exact group_restored members typed info description fields sorted ordered each found
          readInfo readDescription
          (child_fields_restored members ordered attributes fields readFields)
      · simp only [group, ↓reduceIte, bind_ok] at rest
        obtain ⟨kind, readKind, made⟩ := rest
        cases made
        exact leaf_restored members type typed ordered each sorted found info readInfo kind readKind

theorem child_fields_restored : (members : List (String × Json)) → Json.OrderedMembers members →
    AreAttributes .group members → (fields : List Field) →
    Decode.childFields members = .ok fields →
    Keyed.find? "fields" members = some (.arr (Encode.fieldItems fields))
  | [], _, _, fields, read => by simp [Decode.childFields, Decode.mismatch] at read
  | (name, value) :: rest, ordered, attributes, fields, read => by
      by_cases same : name = "fields"
      · subst same
        have list : IsFieldList value := by
          rcases attributes.1 with ⟨shape, listed, _⟩ | ⟨_, _, list⟩
          · exact absurd listed (group_has_no_fields_shape shape)
          · exact list
        have readList : Decode.fieldList true value = .ok fields := by
          simpa [Decode.childFields] using read
        simp [Keyed.find?, field_list_restored true value ordered.1 list fields readList]
      · have later : Decode.childFields rest = .ok fields := by
          simpa [Decode.childFields, same] using read
        simpa [Keyed.find?, same] using
          child_fields_restored rest ordered.2 attributes.2 fields later

theorem field_list_restored (typed : Bool) : (value : Json) → value.Ordered → IsFieldList value →
    (fields : List Field) → Decode.fieldList typed value = .ok fields →
    .arr (Encode.fieldItems fields) = value
  | .arr items, ordered, ⟨_, each⟩, fields, read => by
      rw [fields_restored typed items ordered each fields read]

theorem fields_restored (typed : Bool) : (items : List Json) → Json.OrderedItems items →
    AreFields items → (fields : List Field) → Decode.fields typed items = .ok fields →
    Encode.fieldItems fields = items
  | [], _, _, fields, read => by
      cases read
      rfl
  | item :: rest, ordered, each, fields, read => by
      simp only [Decode.fields, bind_ok] at read
      obtain ⟨field, readField, others, readOthers, made⟩ := read
      cases made
      rw [Encode.fieldItems, field_restored typed item ordered.1 each.1 field readField,
        fields_restored typed rest ordered.2 each.2 others readOthers]
end

end Fields

section Form

/-- The document without a list of integrations that has none in it. -/
def withoutEmptyIntegrations : Json → Json
  | .obj members =>
      match Keyed.find? "apiIntegrations" members with
      | some (.arr []) => .obj (Keyed.erase "apiIntegrations" members)
      | _ => .obj members
  | other => other

theorem form_restored (value : Json) (schema : FormSchema) (ordered : value.Ordered)
    (form : IsForm value) (read : Decode.formSchema value = .ok schema) :
    Encode.formSchema schema = withoutEmptyIntegrations value := by
  obtain ⟨members, rfl, _, each⟩ := form
  obtain ⟨sorted, ordered⟩ := ordered
  have member := record_member _ members each
  obtain ⟨readIntegrations, absent, readDescription, readFields, readTitle⟩ :=
    form_parts members schema read
  have foundDescription := optional_restored _ _ _ text_restored members "description" ordered
    (member "description" IsText (by simp)) (by simp [IsText]) _ readDescription
  have foundTitle := required_restored IsText _ _ text_restored members "title" ordered
    (fun held present => by
      obtain ⟨text, same, _⟩ := member "title" IsTitle (by simp) held present
      exact ⟨text, same⟩) _ readTitle
  have fields : Restores IsFieldList (fun fields => .arr (Encode.fieldItems fields))
      (Decode.fieldList false) := fun held fields ordered list read =>
    field_list_restored false held ordered list fields read
  have foundFields := required_restored _ _ _ fields members "fields" ordered
    (member "fields" IsFieldList (by simp)) _ readFields
  have known : ∀ entry ∈ members,
      entry.1 ∈ ["apiIntegrations", "description", "fields", "title"] := by
    intro entry present
    obtain ⟨shape, listed, _⟩ := each entry present
    have named := List.mem_map_of_mem (f := Prod.fst) listed
    simpa using named
  have written : ∀ kept, Keyed.Sorted kept → (∀ entry ∈ kept, entry ∈ members) →
      (∀ name ≠ "apiIntegrations", Keyed.find? name kept = Keyed.find? name members) →
      Keyed.find? "apiIntegrations" kept = (if schema.integrations.isEmpty then none
        else some (Encode.list Encode.integration schema.integrations)) →
      Encode.formSchema schema = .obj kept := by
    intro kept sortedKept within others integrations
    refine members_restored kept _ sortedKept (fun entry present => known entry
      (within entry present)) (Encode.formMembers schema) ?_ ?_
    · simp [Encode.find_form_member, others, integrations, foundDescription, foundFields,
        foundTitle, Encode.text]
    · intro name foreign
      obtain ⟨notIntegrations, notDescription, notFields, notTitle⟩ : name ≠ "apiIntegrations" ∧
          name ≠ "description" ∧ name ≠ "fields" ∧ name ≠ "title" := by simpa using foreign
      simp [Encode.find_form_member, notIntegrations.symm, notDescription.symm, notFields.symm,
        notTitle.symm]
  cases found : Keyed.find? "apiIntegrations" members with
  | none =>
      rw [withoutEmptyIntegrations, found]
      exact written members sorted (fun _ => id) (fun _ _ => rfl) (by simp [found, absent found])
  | some held =>
      have present := Keyed.find_member "apiIntegrations" held members found
      have restored := list_restored _ _ _ integration_restored held schema.integrations
        (Json.ordered_member members ordered _ held present)
        (member "apiIntegrations" (IsListOf IsIntegration) (by simp) held present)
        (readIntegrations held found)
      rw [withoutEmptyIntegrations, found, ← restored]
      cases empty : schema.integrations with
      | nil =>
          exact written _ (Keyed.erase_sorted _ members sorted)
            (fun entry inside => (Keyed.erase_sublist _ members).subset inside)
            (fun name different => Keyed.find_erase_other _ members name different)
            (by simp [Keyed.find_erase _ members sorted, empty])
      | cons first rest =>
          exact written members sorted (fun _ => id) (fun _ _ => rfl)
            (by simp [found, ← restored, empty])

/-- What is kept of a document: some of its members, and all but that one. -/
theorem kept_members (members : List (String × Json)) :
    ∃ kept, withoutEmptyIntegrations (.obj members) = .obj kept ∧ kept.Sublist members ∧
      ∀ name ≠ "apiIntegrations", Keyed.find? name kept = Keyed.find? name members := by
  unfold withoutEmptyIntegrations
  split
  · rename_i inner same
    cases same
    split
    · exact ⟨_, rfl, Keyed.erase_sublist _ members, Keyed.find_erase_other _ members⟩
    · exact ⟨members, rfl, List.Sublist.refl members, fun _ _ => rfl⟩
  · rename_i other
    exact absurd rfl (other members)

variable (value : Json) (form : IsForm value)

include form

theorem kept_form : IsForm (withoutEmptyIntegrations value) := by
  obtain ⟨members, rfl, complete, each⟩ := form
  obtain ⟨kept, same, within, others⟩ := kept_members members
  refine ⟨kept, same, fun name demanded => ?_, fun member present => each member
    (within.subset present)⟩
  have different : name ≠ "apiIntegrations" := by
    rintro rfl
    simp at demanded
  have present := (Keyed.contains_iff name members).mpr (complete name demanded)
  rw [← Keyed.contains_iff, Keyed.contains, others name different]
  exact present

theorem kept_size : (withoutEmptyIntegrations value).byteSize ≤ value.byteSize := by
  rw [Json.exact_byte_size value (form_exact value form),
    Json.exact_byte_size _ (form_exact _ (kept_form value form))]
  obtain ⟨members, rfl, _⟩ := form
  obtain ⟨kept, same, within, _⟩ := kept_members members
  have bulk := Json.sublist_bulk kept members within
  rw [same, Json.bulk, Json.bulk]
  omega

theorem kept_nesting : (withoutEmptyIntegrations value).nesting ≤ value.nesting := by
  obtain ⟨members, rfl, _⟩ := form
  obtain ⟨kept, same, within, _⟩ := kept_members members
  rw [same]
  exact Nat.succ_le_succ (Json.nesting_members_le kept _ fun member present =>
    Json.nesting_member members member.1 member.2 (within.subset present))

end Form

section Validation

variable (limits : SchemaLimits) (value : Json) (schema : FormSchema)

/-- What was read from an accepted document is written as that document and accepted again. -/
theorem written_again (ordered : value.Ordered) (small : value.byteSize ≤ limits.maxBytes)
    (flat : value.nesting ≤ SchemaLimits.maxNesting)
    (verdict : limits.validateRead value = .ok schema) :
    Encode.formSchema schema = withoutEmptyIntegrations value ∧
      limits.validateValue (Encode.formSchema schema) = .ok schema := by
  obtain ⟨meets, read, distinct, shallow⟩ := limits.read_passed schema value verdict
  have form := form_of_meets value schema ordered meets read distinct
  have restored := form_restored value schema ordered form read
  have size := Nat.le_trans (kept_size value form) small
  have nesting := Nat.le_trans (kept_nesting value form) flat
  have satisfied := form_meets _ (kept_form value form)
  have written := Encode.form_written schema
  have unique := (Field.duplicate_ids_empty schema.fields).mpr distinct
  refine ⟨restored, ?_⟩
  rw [restored] at written ⊢
  simp [SchemaLimits.value_stages, SchemaLimits.read_stages, Nat.not_lt.mpr size,
    Nat.not_lt.mpr nesting, satisfied, written, unique, Nat.not_lt.mpr shallow]

theorem text_accepted (text : String) (accepted : limits.validateText text = .ok schema) :
    ∃ tree, Json.Spelled tree text ∧ text.utf8ByteSize ≤ limits.maxBytes ∧
      tree.nesting < SchemaLimits.maxNesting ∧ limits.validateRead tree.settled = .ok schema := by
  have small : text.utf8ByteSize ≤ limits.maxBytes := by
    refine Nat.not_lt.mp fun large => ?_
    simp [SchemaLimits.validateText, large] at accepted
  cases readable : Json.read? text with
  | none =>
      obtain ⟨error, stopped⟩ := SchemaLimits.unreadable_limited text readable
        (some (SchemaLimits.maxNesting - 1))
      simp only [SchemaLimits.validateText, Nat.not_lt.mpr small, ↓reduceIte, stopped] at accepted
      split at accepted <;> simp at accepted
  | some value =>
      obtain ⟨tree, spelled, rfl⟩ := (Json.readable_iff text value).mp readable
      have verdict := SchemaLimits.spelled_verdict limits text tree spelled small
      rw [accepted] at verdict
      split at verdict
      · simp at verdict
      · rename_i below
        exact ⟨tree, spelled, small, Nat.not_le.mp below, verdict.symm⟩

/-- Writing and reading the model of a form are inverse: on every model, and on every accepted
document but for an empty list of integrations, which is not written. -/
theorem encoding_inverse :
    (∀ schema, Decode.formSchema (Encode.formSchema schema) = .ok schema) ∧
    (∀ (limits : SchemaLimits) value schema, value.WellFormed →
      limits.validateValue value = .ok schema →
      Encode.formSchema schema = withoutEmptyIntegrations value ∧
        limits.validateValue (Encode.formSchema schema) = .ok schema) ∧
    (∀ (limits : SchemaLimits) text schema, limits.validateText text = .ok schema →
      ∃ value, Json.read? text = some value ∧
        Encode.formSchema schema = withoutEmptyIntegrations value ∧
        limits.validateValue (Encode.formSchema schema) = .ok schema) := by
  refine ⟨Encode.form_written, ?_, ?_⟩
  · intro limits value schema wellFormed accepted
    obtain ⟨small, flat, verdict⟩ := SchemaLimits.value_accepted limits schema value accepted
    exact written_again limits value schema wellFormed.ordered small flat verdict
  · intro limits text schema accepted
    obtain ⟨tree, spelled, small, below, verdict⟩ := text_accepted limits schema text accepted
    have ordered := Json.settled_ordered tree
    obtain ⟨meets, read, distinct, _⟩ := limits.read_passed schema tree.settled verdict
    have form := form_of_meets tree.settled schema ordered meets read distinct
    have size := Json.spelled_size tree text spelled (form_exact _ form)
    have nesting := Nat.le_trans (Json.settled_nesting tree) (Nat.le_of_lt below)
    exact ⟨tree.settled, Json.spelled_read text tree spelled,
      written_again limits tree.settled schema ordered (Nat.le_trans size small) nesting verdict⟩

/-- One title replaces another, and there are no integrations in the list of them. -/
def idleText : String :=
  "\x7b\"title\": \"Draft\", \"fields\": [], \"title\": \"Contact\", \"apiIntegrations\": []\x7d"

def idleSchema : FormSchema := ⟨"Contact", none, [], []⟩

theorem idle_text_written_again :
    Encode.formSchema idleSchema = .obj [("fields", .arr []), ("title", .str "Contact")] ∧
      SchemaLimits.standard.validateValue (Encode.formSchema idleSchema) = .ok idleSchema := by
  have read : Json.read? idleText = some (.obj [("apiIntegrations", .arr []),
      ("fields", .arr []), ("title", .str "Contact")]) := by decide +kernel
  have small : ¬ SchemaLimits.standard.maxBytes < idleText.utf8ByteSize := by decide +kernel
  have flat : Json.nestingReaches SchemaLimits.maxNesting idleText = false := by decide +kernel
  have accepted : SchemaLimits.standard.validateText idleText = .ok idleSchema := by
    rw [SchemaLimits.readable_verdict _ idleText _ read, if_neg small, flat]
    rfl
  obtain ⟨_, _, texts⟩ := encoding_inverse
  obtain ⟨value, readable, written, again⟩ := texts .standard idleText idleSchema accepted
  obtain rfl := Option.some.inj (read.symm.trans readable)
  exact ⟨written, again⟩

end Validation

end FormEngine.FormDocument
