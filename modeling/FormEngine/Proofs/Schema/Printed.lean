import FormEngine.Proofs.Json.RoundTrip
import FormEngine.Proofs.Schema.Document

/-!
A form as compact text. Every number in a form counts something and is written as an integer, so
the compact text of a form is read back as the form.
-/

namespace FormEngine.FormDocument

section Parts

/-- What has the shape holds no floating number. -/
def AllExact (shape : Shape) : Prop := ∀ value, shape value → value.Exact

theorem text_exact : AllExact IsText := by
  rintro _ ⟨text, rfl⟩
  trivial

theorem flag_exact : AllExact IsFlag := by
  rintro _ ⟨flag, rfl⟩
  trivial

theorem scalar_exact : AllExact IsScalar := fun value scalar =>
  scalar.elim (text_exact value) (flag_exact value)

theorem whole_exact : AllExact IsWhole := by
  rintro _ ⟨count, rfl⟩
  trivial

theorem one_of_exact (texts : List String) : AllExact (IsOneOf texts) := by
  rintro _ ⟨text, _, rfl⟩
  trivial

theorem list_exact (item : Shape) (exact : AllExact item) : AllExact (IsListOf item) := by
  rintro _ ⟨items, rfl, each⟩
  exact (Json.exact_items_iff items).mpr fun inner present => exact inner (each inner present)

theorem dictionary_exact (entry : Shape) (exact : AllExact entry) :
    AllExact (IsDictionaryOf entry) := by
  rintro _ ⟨members, rfl, each⟩
  exact (Json.exact_members_iff members).mpr fun member present =>
    exact member.2 (each member present)

theorem record_exact (required : List String) (known : List (String × Shape))
    (exact : ∀ entry ∈ known, AllExact entry.2) : AllExact (IsRecord required known) := by
  rintro _ ⟨members, rfl, _, each⟩
  refine (Json.exact_members_iff members).mpr fun member present => ?_
  obtain ⟨shape, listed, holds⟩ := each member present
  exact exact (member.1, shape) listed member.2 holds

theorem choice_exact : AllExact IsChoice :=
  record_exact _ _ (by simp [text_exact])

theorem choices_exact : AllExact (IsFilledListOf IsChoice) := by
  rintro value ⟨items, same, _, each⟩
  exact list_exact IsChoice choice_exact value ⟨items, same, each⟩

theorem visibility_exact : AllExact IsVisibility := by
  have operand : AllExact IsOperand := by
    rintro value (text | flag | list)
    · exact text_exact value text
    · exact flag_exact value flag
    · exact list_exact IsText text_exact value list
  have condition : AllExact IsCondition :=
    record_exact _ _ (by simp [text_exact, one_of_exact, operand])
  exact record_exact _ _ (by simp [list_exact IsCondition condition])

theorem rule_exact : AllExact IsRule := by
  have guard : AllExact IsRuleGuard := record_exact _ _ (by simp [text_exact, scalar_exact])
  exact record_exact _ _ (by simp [text_exact, flag_exact, whole_exact, guard])

theorem dynamic_validation_exact : AllExact IsDynamicValidation := by
  have rule : AllExact IsPatternRule := record_exact _ _ (by simp [text_exact])
  exact record_exact _ _ (by simp [text_exact, dictionary_exact IsPatternRule rule])

theorem integration_exact : AllExact IsIntegration :=
  record_exact _ _ (by simp [text_exact, whole_exact, list_exact IsText text_exact])

end Parts

section Fields

theorem leaf_attributes_exact (default : Shape) (exact : AllExact default) :
    ∀ entry ∈ leafAttributes default, AllExact entry.2 := by
  simp [leafAttributes, text_exact, exact, list_exact IsRule rule_exact, integration_exact]

theorem type_attributes_exact (type : FieldType) :
    ∀ entry ∈ typeAttributes type, AllExact entry.2 := by
  have leaf := leaf_attributes_exact IsText text_exact
  cases type with
  | text => exact List.forall_mem_cons.mpr ⟨one_of_exact _, leaf⟩
  | textarea => exact List.forall_mem_cons.mpr ⟨whole_exact, leaf⟩
  | dropdown => exact List.forall_mem_cons.mpr ⟨choices_exact, leaf⟩
  | checkbox => exact leaf_attributes_exact IsFlag flag_exact
  | radio => exact List.forall_mem_cons.mpr ⟨choices_exact, leaf⟩
  | validatedText => exact List.forall_mem_cons.mpr ⟨dynamic_validation_exact, leaf⟩
  | group => exact List.forall_mem_singleton.mpr text_exact

theorem attributes_exact (type : FieldType) : ∀ entry ∈ attributes type, AllExact entry.2 := by
  have id : AllExact IsId := by
    rintro _ ⟨text, rfl, _⟩
    trivial
  have tag : AllExact fun value => value = .str type.tag := by
    rintro _ rfl
    trivial
  refine List.forall_mem_append.mpr ⟨?_, type_attributes_exact type⟩
  simp [id, text_exact, tag, flag_exact, visibility_exact]

mutual
theorem field_exact : (value : Json) → IsField value → value.Exact
  | .obj members, ⟨type, _, _, each⟩ => attribute_members_exact type members each

theorem attribute_members_exact (type : FieldType) : (members : List (String × Json)) →
    AreAttributes type members → Json.ExactMembers members
  | [], _ => trivial
  | (name, value) :: rest, each => by
      refine ⟨?_, attribute_members_exact type rest each.2⟩
      rcases each.1 with ⟨shape, listed, holds⟩ | ⟨_, _, list⟩
      · exact attributes_exact type (name, shape) listed value holds
      · exact field_list_exact value list

theorem field_list_exact : (value : Json) → IsFieldList value → value.Exact
  | .arr items, ⟨_, each⟩ => fields_exact items each

theorem fields_exact : (items : List Json) → AreFields items → Json.ExactItems items
  | [], _ => trivial
  | item :: rest, each => ⟨field_exact item each.1, fields_exact rest each.2⟩
end

end Fields

theorem form_exact (value : Json) (form : IsForm value) : value.Exact := by
  have title : AllExact IsTitle := by
    rintro _ ⟨text, rfl, _⟩
    trivial
  have fields : AllExact IsFieldList := field_list_exact
  refine record_exact _ _ ?_ value form
  simp [list_exact IsIntegration integration_exact, text_exact, fields, title]

theorem form_read_back (value : Json) (wellFormed : value.WellFormed) (form : IsForm value) :
    Json.read? value.compact = some value :=
  Json.compact_read value wellFormed (form_exact value form)

end FormEngine.FormDocument
