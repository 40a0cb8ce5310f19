import FormEngine.Proofs.Json.Structure
import FormEngine.Proofs.Schema.Parts
import FormEngine.Proofs.Schema.Siblings

/-!
Fields: the contract of a field is one flat record with clauses on its type, and its shape is a
record for each type. Both admit the same documents once the numbers in them are whole, which a
successful reading shows. What is read keeps ids, the distinctness of ids and the depth of groups.
-/

namespace FormEngine.FormDocument

open Contract (Meets MeetsKeyword Violation)
open FormSchema

attribute [local simp] Json.Kind.admits

section Clauses

variable (refer : String → Json → List Violation) (members : List (String × Json))
  (type : FieldType) (found : Keyed.find? "type" members = some (.str type.tag))

theorem tag_injective (left right : FieldType) : left.tag = right.tag ↔ left = right := by
  cases left <;> cases right <;> decide

include found

theorem meets_for_types (types : List FieldType) (keywords : List Keyword) :
    Meets refer (forTypes types keywords) (.obj members) ↔
      (type ∈ types → ∀ keyword ∈ keywords, MeetsKeyword refer keyword (.obj members)) := by
  simp [forTypes, Contract.meets_node, TagGuard.holds, found, tag_injective]

theorem meets_only_for_types (types : List FieldType) (key : String) :
    Meets refer (onlyForTypes types key) (.obj members) ↔
      (type ∉ types → Keyed.find? key members = none) := by
  simp [onlyForTypes, Contract.meets_node, TagGuard.holds, found, tag_injective,
    Option.eq_none_iff_forall_ne_some]

/-- The attributes that only some types have, each with these types. -/
def ownedAttributes : List (String × List FieldType) :=
  [("options", [.dropdown, .radio]), ("rows", [.textarea]), ("inputType", [.text]),
   ("dynamicValidation", [.validatedText]), ("fields", [.group]), ("description", [.group])]

omit found in
/-- What the clauses say of the members of a field of one type. -/
structure Clauses : Prop where
  group : type ∈ [FieldType.group] → (∃ held, ("fields", held) ∈ members) ∧
    ∀ name ∈ ["apiIntegration", "defaultValue", "placeholder", "validations"],
      Keyed.find? name members = none
  choices : type ∈ [FieldType.dropdown, .radio] → (∃ held, ("options", held) ∈ members) ∧
    ∀ items, Keyed.find? "options" members = some (.arr items) → items ≠ []
  flagDefault : type ∈ [FieldType.checkbox] →
    ∀ held, Keyed.find? "defaultValue" members = some held → IsFlag held
  textDefault : type ∈ [FieldType.text, .textarea, .dropdown, .radio, .validatedText] →
    ∀ held, Keyed.find? "defaultValue" members = some held → IsText held
  owned : ∀ entry ∈ ownedAttributes, type ∉ entry.2 → Keyed.find? entry.1 members = none

theorem meets_type_clauses :
    MeetsKeyword refer (.all typeClauses) (.obj members) ↔ Clauses members type := by
  have absent : ∀ name, (∀ held, Keyed.find? name members = some held → False) ↔
      Keyed.find? name members = none := fun name => Option.eq_none_iff_forall_ne_some.symm
  have filled : (∀ held, Keyed.find? "options" members = some held →
        ∀ items, held = .arr items → 1 ≤ items.length) ↔
      ∀ items, Keyed.find? "options" members = some (.arr items) → items ≠ [] := by
    constructor
    · intro counted items listed
      exact List.length_pos_iff.mp (counted (.arr items) listed items rfl)
    · rintro nonempty _ listed items rfl
      exact List.length_pos_iff.mpr (nonempty items listed)
  simp only [Contract.meets_all, typeClauses, List.forall_mem_cons, List.not_mem_nil,
    false_imp_iff, implies_true, and_true, meets_for_types refer members type found,
    meets_only_for_types refer members type found, Contract.meets_required,
    Contract.meets_open_properties, Contract.meets_never, meets_any_flag, meets_any_text,
    Contract.meets_node, Contract.meets_min_items, absent, filled]
  constructor
  · rintro ⟨group, choices, flag, text, owned⟩
    exact ⟨by simpa using group, choices, flag, text, by simpa [ownedAttributes] using owned⟩
  · rintro ⟨group, choices, flag, text, owned⟩
    exact ⟨by simpa using group, choices, flag, text, by simpa [ownedAttributes] using owned⟩

end Clauses

section Shapes

/-- The attributes that the contract knows, whatever the type of the field. -/
def knownAttributes : List (String × Contract) :=
  [("apiIntegration", integrationContract), ("defaultValue", anyScalar), ("description", anyText),
   ("disabled", anyFlag), ("dynamicValidation", dynamicValidationContract),
   ("fields", fieldsContract), ("id", .node [.types [.string], .minLength 1, .segment]),
   ("inputType", .node [.types [.string], .constants (InputType.all.map InputType.tag)]),
   ("label", anyText), ("options", listOf choiceContract), ("placeholder", anyText),
   ("rows", wholeNumber),
   ("type", .node [.types [.string], .constants (FieldType.all.map FieldType.tag)]),
   ("validations", listOf validationRuleContract), ("visibility", visibilityContract)]

theorem known_attributes_sorted : Keyed.Sorted knownAttributes := by
  decide +kernel

variable (refer : String → Json → List Violation) (members : List (String × Json))

theorem meets_field_contract :
    Meets refer fieldContract (.obj members) ↔
      (∀ name ∈ ["id", "label", "type"], ∃ held, (name, held) ∈ members) ∧
      (∀ member ∈ members, ∃ contract,
        (member.1, contract) ∈ knownAttributes ∧ Meets refer contract member.2) ∧
      MeetsKeyword refer (.all typeClauses) (.obj members) := by
  have listed : ∀ name contract, Keyed.find? name knownAttributes = some contract ↔
      (name, contract) ∈ knownAttributes := fun name contract =>
    ⟨Keyed.find_member name contract _,
      Keyed.sorted_find name contract _ known_attributes_sorted⟩
  have layout : fieldContract = .node [.types [.object], .required ["id", "label", "type"],
    .properties true knownAttributes, .all typeClauses] := rfl
  simp only [layout, Contract.meets_node, List.forall_mem_cons, Contract.meets_types,
    Contract.meets_required, Contract.meets_closed_properties, listed]
  simp

theorem one_le_length (text : String) : 1 ≤ text.length ↔ text ≠ "" := by
  rw [Nat.one_le_iff_ne_zero]
  exact not_congr String.length_eq_zero_iff

@[simp]
theorem meets_id (value : Json) :
    Meets refer (.node [.types [.string], .minLength 1, .segment]) value ↔ IsId value := by
  cases value with
  | str text =>
      simp [Contract.meets_node, IsId, Contract.isSegment, one_le_length]
  | _ => simp [Contract.meets_node, IsId]

theorem list_of_mono (weaker stronger : Shape) (value : Json)
    (implies : ∀ item, stronger item → weaker item) (list : IsListOf stronger value) :
    IsListOf weaker value := by
  obtain ⟨items, same, each⟩ := list
  exact ⟨items, same, fun item present => implies item (each item present)⟩

/-- The contract knows an attribute and asks no more of it than its shape. -/
def Known (entry : String × Shape) : Prop :=
  ∃ contract, Keyed.find? entry.1 knownAttributes = some contract ∧
    ∀ value, entry.2 value → Meets refer contract value

theorem leaf_attributes_known (default : Shape)
    (scalar : ∀ value, default value → IsScalar value) :
    ∀ entry ∈ leafAttributes default, Known refer entry := by
  have text : Known refer ("placeholder", IsText) :=
    ⟨anyText, rfl, fun value => (meets_any_text refer value).mpr⟩
  have initial : Known refer ("defaultValue", default) :=
    ⟨anyScalar, rfl, fun value held => (meets_any_scalar refer value).mpr (scalar value held)⟩
  have rules : Known refer ("validations", IsListOf IsRule) :=
    ⟨listOf validationRuleContract, rfl, fun value list =>
      (meets_list_of refer _ value).mpr (list_of_mono _ _ value (rule_meets refer) list)⟩
  have integration : Known refer ("apiIntegration", IsIntegration) :=
    ⟨integrationContract, rfl, integration_meets refer⟩
  simp [leafAttributes, text, initial, rules, integration]

theorem type_attributes_known (type : FieldType) :
    ∀ entry ∈ typeAttributes type, Known refer entry := by
  have leaf := leaf_attributes_known refer IsText fun _ held => Or.inl held
  have choices : Known refer ("options", IsFilledListOf IsChoice) := by
    refine ⟨listOf choiceContract, rfl, ?_⟩
    rintro value ⟨items, same, _, each⟩
    refine (meets_list_of refer _ value).mpr ⟨items, same, fun item present => ?_⟩
    exact (meets_choice refer item).mpr (each item present)
  cases type with
  | text =>
      exact List.forall_mem_cons.mpr
        ⟨⟨_, rfl, fun value => (meets_one_of refer _ value).mpr⟩, leaf⟩
  | textarea => exact List.forall_mem_cons.mpr ⟨⟨wholeNumber, rfl, whole_meets refer⟩, leaf⟩
  | dropdown => exact List.forall_mem_cons.mpr ⟨choices, leaf⟩
  | checkbox => exact leaf_attributes_known refer IsFlag fun _ held => Or.inr held
  | radio => exact List.forall_mem_cons.mpr ⟨choices, leaf⟩
  | validatedText =>
      exact List.forall_mem_cons.mpr
        ⟨⟨_, rfl, fun value => (meets_dynamic_validation refer value).mpr⟩, leaf⟩
  | group =>
      exact List.forall_mem_singleton.mpr ⟨_, rfl, fun value => (meets_any_text refer value).mpr⟩

/-- Every attribute of some type is known to the contract, which asks no more than its shape. -/
theorem attributes_known (type : FieldType) : ∀ entry ∈ attributes type, Known refer entry := by
  have id : Known refer ("id", IsId) := ⟨_, rfl, fun value => (meets_id refer value).mpr⟩
  have label : Known refer ("label", IsText) :=
    ⟨_, rfl, fun value => (meets_any_text refer value).mpr⟩
  have tag : Known refer ("type", fun value => value = .str type.tag) := by
    refine ⟨_, rfl, ?_⟩
    rintro _ rfl
    exact (meets_one_of refer _ _).mpr
      ⟨type.tag, List.mem_map_of_mem (by cases type <;> decide), rfl⟩
  have disabled : Known refer ("disabled", IsFlag) :=
    ⟨_, rfl, fun value => (meets_any_flag refer value).mpr⟩
  have visibility : Known refer ("visibility", IsVisibility) :=
    ⟨_, rfl, fun value => (meets_visibility refer value).mpr⟩
  refine List.forall_mem_append.mpr ⟨?_, type_attributes_known refer type⟩
  simp [id, label, tag, disabled, visibility]

variable (type : FieldType) (each : ∀ member ∈ members,
  (∃ shape, (member.1, shape) ∈ attributes type ∧ shape member.2) ∨
    (type = .group ∧ member.1 = "fields" ∧ IsFieldList member.2))

include each

theorem attribute_shape (name : String) (weaker : Shape)
    (implies : ∀ shape, (name, shape) ∈ attributes type → ∀ value, shape value → weaker value)
    (notChildren : name ≠ "fields") (held : Json) (present : (name, held) ∈ members) :
    weaker held := by
  rcases each (name, held) present with ⟨shape, listed, holds⟩ | ⟨_, same, _⟩
  · exact implies shape listed held holds
  · exact absurd same notChildren

theorem foreign_attribute_absent (name : String)
    (foreign : ∀ shape, (name, shape) ∉ attributes type)
    (notChildren : type = .group → name ≠ "fields") : Keyed.find? name members = none := by
  rw [Keyed.find_absent]
  intro held present
  rcases each (name, held) present with ⟨shape, listed, _⟩ | ⟨group, same, _⟩
  · exact foreign shape listed
  · exact notChildren group same

theorem tag_found (tagged : ("type", .str type.tag) ∈ members) :
    Keyed.find? "type" members = some (.str type.tag) := by
  cases found : Keyed.find? "type" members with
  | none => exact absurd tagged ((Keyed.find_absent "type" members).mp found _)
  | some held =>
      have present := Keyed.find_member "type" held members found
      have implies : ∀ shape, ("type", shape) ∈ attributes type →
          ∀ value, shape value → value = .str type.tag := by
        cases type <;> simp [attributes, typeAttributes, leafAttributes]
      exact congrArg some
        (attribute_shape members type each "type" _ implies (by decide) held present)

theorem shape_clauses
    (complete : ∀ name ∈ requiredAttributes type, ∃ held, (name, held) ∈ members) :
    Clauses members type := by
  have absent := foreign_attribute_absent members type each
  have shape := attribute_shape members type each
  have member := fun name held => Keyed.find_member name held members
  constructor
  case group =>
    intro group
    obtain rfl := List.mem_singleton.mp group
    refine ⟨complete "fields" (by simp [requiredAttributes]), ?_⟩
    intro name listed
    apply absent name <;> revert name <;> simp [attributes, typeAttributes]
  case choices =>
    intro choice
    have demanded : "options" ∈ requiredAttributes type := by
      revert choice
      cases type <;> simp [requiredAttributes]
    have implies : ∀ shape, ("options", shape) ∈ attributes type →
        ∀ value, shape value → IsFilledListOf IsChoice value := by
      revert choice
      cases type <;> simp [attributes, typeAttributes, leafAttributes]
    refine ⟨complete "options" demanded, ?_⟩
    intro items found
    obtain ⟨_, same, filled, _⟩ := shape "options" _ implies (by decide) _ (member _ _ found)
    cases same
    exact filled
  case flagDefault =>
    intro checkbox
    obtain rfl := List.mem_singleton.mp checkbox
    intro held found
    exact shape "defaultValue" IsFlag (by simp [attributes, typeAttributes, leafAttributes])
      (by decide) held (member _ _ found)
  case textDefault =>
    intro text held found
    refine shape "defaultValue" IsText ?_ (by decide) held (member _ _ found)
    revert text
    cases type <;> simp [attributes, typeAttributes, leafAttributes]
  case owned =>
    intro entry listed other
    simp only [ownedAttributes, List.mem_cons, List.not_mem_nil, or_false] at listed
    apply absent entry.1
    · rcases listed with rfl | rfl | rfl | rfl | rfl | rfl <;> revert other <;>
        cases type <;> simp [attributes, typeAttributes, leafAttributes]
    · rintro rfl
      revert other
      rcases listed with rfl | rfl | rfl | rfl | rfl | rfl <;> simp

end Shapes

section FieldContract

variable (refer : String → Json → List Violation) (members : List (String × Json))

-- The children of a group are the only part of the contract that refers back to it.
variable (children : ∀ field, IsField field → refer fieldName field = [])

include children

theorem field_list_meets (value : Json) (list : IsFieldList value) :
    Meets refer fieldsContract value := by
  cases value with
  | arr items =>
      have fields := (are_fields_iff items).mp list.2
      rw [fieldsContract, meets_list_of]
      refine ⟨items, rfl, fun item listed => ?_⟩
      simpa [Contract.meets_node] using children item (fields item listed)
  | _ => exact absurd list (by simp [IsFieldList])

theorem field_contract_of_shape (field : IsField (.obj members)) :
    Meets refer fieldContract (.obj members) := by
  obtain ⟨type, tagged, complete, each⟩ := field
  rw [are_attributes_iff] at each
  refine (meets_field_contract refer members).mpr ⟨?_, ?_, ?_⟩
  · intro name listed
    apply complete name
    revert name
    cases type <;> simp [requiredAttributes]
  · intro member present
    rcases each member present with ⟨shape, listed, holds⟩ | ⟨_, same, list⟩
    · obtain ⟨contract, known, meets⟩ := attributes_known refer type (member.1, shape) listed
      exact ⟨contract, Keyed.find_member _ _ _ known, meets member.2 holds⟩
    · exact ⟨fieldsContract, by simp [knownAttributes, same],
        field_list_meets refer children member.2 list⟩
  · have found := tag_found members type each tagged
    exact (meets_type_clauses refer members type found).mpr
      (shape_clauses members type each complete)

omit children in
/-- References are followed level by level, so the induction is on how many are followed. -/
theorem field_meets (depth : Nat) (field : Json) (shape : IsField field) :
    Contract.follow definitions depth fieldName field = [] := by
  induction depth generalizing field with
  | zero => rfl
  | succ depth ih =>
      cases field with
      | obj members =>
          have meets := field_contract_of_shape (Contract.follow definitions depth) members ih shape
          simpa [Contract.follow, definitions, Keyed.find?, Meets] using meets
      | _ => exact absurd shape (by simp [IsField])

end FieldContract

end FormEngine.FormDocument
