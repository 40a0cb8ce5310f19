import FormEngine.Proofs.Json.Structure
import FormEngine.Proofs.Schema.Acceptance

/-!
How deep the JSON of a form nests. The contract bounds every part that holds no fields by a constant,
and one group adds an object and a list around its fields. So the nesting of a document follows from
the depth of its groups, which is the only depth that has a limit of its own.
-/

namespace FormEngine.FormDocument

open Contract (Meets MeetsKeyword Violation)
open FormSchema

section Parts

variable (refer : String → Json → List Violation)

/-- What meets the contract nests no deeper than this. -/
def Bounds (bound : Nat) (contract : Contract) : Prop :=
  ∀ value, Meets refer contract value → value.nesting ≤ bound

theorem bounds_more (bound more : Nat) (contract : Contract) (bounds : Bounds refer bound contract)
    (larger : bound ≤ more) : Bounds refer more contract := fun value meets =>
  Nat.le_trans (bounds value meets) larger

-- Any further keywords only narrow down which texts, flags or numbers are meant.
theorem bounds_scalar (kinds : List Json.Kind) (keywords : List Keyword)
    (scalar : Json.Kind.array ∉ kinds ∧ Json.Kind.object ∉ kinds) :
    Bounds refer 0 (.node (.types kinds :: keywords)) := by
  intro value meets
  obtain ⟨kind, listed, admitted⟩ :=
    (Contract.meets_types refer kinds value).mp
      ((Contract.meets_node refer _ value).mp meets _ List.mem_cons_self)
  cases value with
  | arr items => cases kind <;> simp_all [Json.Kind.admits]
  | obj members => cases kind <;> simp_all [Json.Kind.admits]
  | _ => simp [Json.nesting]

theorem bounds_list (bound : Nat) (item : Contract) (bounds : Bounds refer bound item) :
    Bounds refer (bound + 1) (listOf item) := by
  intro value meets
  obtain ⟨items, rfl, each⟩ := (meets_list_of refer item value).mp meets
  exact Nat.succ_le_succ (Json.nesting_items_le items bound fun inner present =>
    bounds inner (each inner present))

theorem bounds_record (bound : Nat) (required : List String) (known : List (String × Contract))
    (sorted : Keyed.Sorted known) (each : ∀ entry ∈ known, Bounds refer bound entry.2) :
    Bounds refer (bound + 1) (closedRecord required known) := by
  intro value meets
  obtain ⟨members, rfl, _, held⟩ :=
    (meets_closed_record refer required known sorted value).mp meets
  refine Nat.succ_le_succ (Json.nesting_members_le members bound fun member present => ?_)
  obtain ⟨contract, listed, meetsHeld⟩ := held member present
  exact each (member.1, contract) listed member.2 meetsHeld

theorem bounds_dictionary (bound : Nat) (entry : Contract) (bounds : Bounds refer bound entry) :
    Bounds refer (bound + 1) (.node [.types [.object], .everyMember entry]) := by
  intro value meets
  obtain ⟨members, rfl, each⟩ := (meets_dictionary_of refer entry value).mp meets
  exact Nat.succ_le_succ (Json.nesting_members_le members bound fun member present =>
    bounds member.2 (each member present))

theorem bounds_text : Bounds refer 0 anyText := bounds_scalar refer _ _ (by simp)
theorem bounds_flag : Bounds refer 0 anyFlag := bounds_scalar refer _ _ (by simp)
theorem bounds_either : Bounds refer 0 anyScalar := bounds_scalar refer _ _ (by simp)
theorem bounds_whole : Bounds refer 0 wholeNumber := bounds_scalar refer _ _ (by simp)

theorem bounds_operand :
    Bounds refer 1 (.node [.exactlyOne [anyText, anyFlag, listOf anyText]]) := by
  intro value meets
  have texts := bounds_list refer 0 anyText (bounds_text refer)
  rcases (meets_operand refer value).mp meets with ⟨text, rfl⟩ | ⟨flag, rfl⟩ | list
  · exact Nat.zero_le _
  · exact Nat.zero_le _
  · refine texts value ((meets_list_of refer anyText value).mpr ?_)
    exact (list_of_congr _ _ value (meets_any_text refer)).mpr list

theorem bounds_visibility : Bounds refer 4 visibilityContract := by
  have text := bounds_more refer 0 1 anyText (bounds_text refer) (by decide)
  have operator := bounds_more refer 0 1 _ (bounds_scalar refer [.string]
    [.constants ["equals", "notEquals", "contains", "in"]] (by simp)) (by decide)
  have condition : Bounds refer 2 conditionContract :=
    bounds_record refer 1 _ _ (by decide) (by simp [text, operator, bounds_operand refer])
  have conditions := bounds_list refer 2 conditionContract condition
  exact bounds_record refer 3 _ _ (by decide) (by simp [conditions])

theorem bounds_rules : Bounds refer 3 (listOf validationRuleContract) := by
  have guard : Bounds refer 1 ruleGuardContract :=
    bounds_record refer 0 _ _ (by decide) (by simp [bounds_text refer, bounds_either refer])
  have text := bounds_more refer 0 1 anyText (bounds_text refer) (by decide)
  have flag := bounds_more refer 0 1 anyFlag (bounds_flag refer) (by decide)
  have whole := bounds_more refer 0 1 wholeNumber (bounds_whole refer) (by decide)
  have rule : Bounds refer 2 validationRuleContract :=
    bounds_record refer 1 _ _ (by decide) (by simp [text, flag, whole, guard])
  exact bounds_list refer 2 validationRuleContract rule

theorem bounds_dynamic_validation : Bounds refer 3 dynamicValidationContract := by
  have text := bounds_more refer 0 2 anyText (bounds_text refer) (by decide)
  have rule : Bounds refer 1 patternRuleContract :=
    bounds_record refer 0 _ _ (by decide) (by simp [bounds_text refer])
  have rules := bounds_dictionary refer 1 patternRuleContract rule
  exact bounds_record refer 2 _ _ (by decide) (by simp [text, rules])

theorem bounds_integration : Bounds refer 2 integrationContract := by
  have text := bounds_more refer 0 1 anyText (bounds_text refer) (by decide)
  have whole := bounds_more refer 0 1 wholeNumber (bounds_whole refer) (by decide)
  have texts := bounds_list refer 0 anyText (bounds_text refer)
  exact bounds_record refer 1 _ _ (by decide) (by simp [text, whole, texts])

theorem bounds_choices : Bounds refer 2 (listOf choiceContract) := by
  have choice : Bounds refer 1 choiceContract :=
    bounds_record refer 0 _ _ (by decide) (by simp [bounds_text refer])
  exact bounds_list refer 1 choiceContract choice

/-- Nothing but the children of a group nests deeper than the conditions of its visibility. -/
theorem bounds_attribute (entry : String × Contract) (known : entry ∈ knownAttributes)
    (notChildren : entry.1 ≠ "fields") : Bounds refer 4 entry.2 := by
  have more : ∀ bound contract, Bounds refer bound contract → bound ≤ 4 →
      Bounds refer 4 contract := fun bound contract => bounds_more refer bound 4 contract
  have scalar (kinds : List Json.Kind) (keywords : List Keyword)
      (simple : Json.Kind.array ∉ kinds ∧ Json.Kind.object ∉ kinds) :
      Bounds refer 4 (.node (.types kinds :: keywords)) :=
    more 0 _ (bounds_scalar refer kinds keywords simple) (by decide)
  have text : Bounds refer 4 anyText := scalar _ _ (by simp)
  have flag : Bounds refer 4 anyFlag := scalar _ _ (by simp)
  have either : Bounds refer 4 anyScalar := scalar _ _ (by simp)
  have whole : Bounds refer 4 wholeNumber := scalar _ _ (by simp)
  have integration := more 2 _ (bounds_integration refer) (by decide)
  have dynamic := more 3 _ (bounds_dynamic_validation refer) (by decide)
  have choices := more 2 _ (bounds_choices refer) (by decide)
  have rules := more 3 _ (bounds_rules refer) (by decide)
  have visibility := bounds_visibility refer
  simp only [knownAttributes, List.mem_cons, List.not_mem_nil, or_false] at known
  rcases known with rfl | rfl | rfl | rfl | rfl | rfl | rfl | rfl | rfl | rfl | rfl | rfl | rfl |
    rfl | rfl
  all_goals first | assumption | exact absurd rfl notChildren | exact scalar _ _ (by simp)

end Parts

section Fields

theorem child_depth_found (members : List (String × Json)) (sorted : Keyed.Sorted members)
    (held : Json) (present : ("fields", held) ∈ members) :
    childDepth members = listDepth held + 1 := by
  induction members with
  | nil => simp at present
  | cons member rest ih =>
      obtain ⟨name, value⟩ := member
      by_cases same : name = "fields"
      · subst same
        have found := Keyed.sorted_find "fields" held _ sorted present
        have equal : value = held := by simpa [Keyed.find?] using found
        simp [childDepth, equal]
      · have later : ("fields", held) ∈ rest := by simpa [Ne.symm same] using present
        simpa [childDepth, same] using ih (Keyed.sorted_tail _ rest sorted) later

theorem field_depth_item (items : List Json) (item : Json) (present : item ∈ items) :
    fieldDepth item ≤ deepest items := by
  induction items with
  | nil => simp at present
  | cons first rest ih =>
      rcases List.mem_cons.mp present with rfl | later
      · exact Nat.le_max_left _ _
      · exact Nat.le_trans (ih later) (Nat.le_max_right _ _)

/-- A list of fields nests one level deeper than the fields in it may. -/
theorem field_list_nesting (refer : String → Json → List Violation) (value : Json)
    (below : ∀ item, item.nesting < value.nesting → item.Ordered → refer fieldName item = [] →
      item.nesting ≤ 2 * fieldDepth item + 5)
    (ordered : value.Ordered) (meets : Meets refer fieldsContract value) :
    value.nesting ≤ 2 * listDepth value + 6 := by
  rw [fieldsContract, meets_list_of] at meets
  obtain ⟨items, rfl, each⟩ := meets
  refine Nat.succ_le_succ (Json.nesting_items_le items _ fun item present => ?_)
  have meetsItem : refer fieldName item = [] := by
    simpa [Contract.meets_node] using each item present
  have nested := Json.nesting_item items item present
  have shallow := below item (Nat.lt_succ_of_le nested)
    (Json.ordered_item items ordered item present) meetsItem
  have depth := field_depth_item items item present
  simp only [listDepth]
  omega

theorem field_contract_object (refer : String → Json → List Violation) (value : Json)
    (meets : Meets refer fieldContract value) : ∃ members, value = .obj members := by
  have typed : MeetsKeyword refer (.types [.object]) value :=
    (Contract.meets_node refer _ value).mp meets _ List.mem_cons_self
  cases value with
  | obj members => exact ⟨members, rfl⟩
  | _ => simp [Json.Kind.admits] at typed

-- References are followed level by level, as where the contract is matched with the shape.
theorem field_nesting (depth : Nat) (value : Json) (shallow : value.nesting < depth)
    (ordered : value.Ordered) (meets : Contract.follow definitions depth fieldName value = []) :
    value.nesting ≤ 2 * fieldDepth value + 5 := by
  induction depth generalizing value with
  | zero => omega
  | succ depth ih =>
      have satisfied : Meets (Contract.follow definitions depth) fieldContract value := by
        simpa [Contract.follow, definitions, Keyed.find?, Meets] using meets
      obtain ⟨members, rfl⟩ := field_contract_object _ value satisfied
      obtain ⟨_, known, _⟩ := (meets_field_contract _ members).mp satisfied
      refine Nat.succ_le_succ (Json.nesting_members_le members _ fun member present => ?_)
      obtain ⟨name, held⟩ := member
      obtain ⟨contract, listed, meetsHeld⟩ := known (name, held) present
      by_cases children : name = "fields"
      · subst children
        have only : contract = fieldsContract := by simpa [knownAttributes] using listed
        subst only
        have nested := Json.nesting_member members "fields" held present
        have list := field_list_nesting _ held
          (fun item smaller => ih item (by simp only [Json.nesting] at shallow; omega))
          (Json.ordered_member members ordered.2 _ held present) meetsHeld
        simp only [fieldDepth, child_depth_found members ordered.1 held present]
        omega
      · have flat := bounds_attribute _ (name, contract) listed children held meetsHeld
        exact Nat.le_trans flat (Nat.le_add_left _ _)

end Fields

section Form

/-- The nesting of a document that meets the contract follows from the depth of its groups. -/
theorem form_nesting (value : Json) (ordered : value.Ordered)
    (meets : contractViolations value = []) : value.nesting ≤ 2 * formDepth value + 7 := by
  have satisfied : Meets (Contract.follow definitions (value.nesting + 1)) (.node rootKeywords)
      value := meets
  obtain ⟨members, rfl, _, known⟩ :=
    (meets_closed_record _ _ _ root_sorted value).mp (root_layout ▸ satisfied)
  obtain ⟨sorted, ordered⟩ := ordered
  refine Nat.succ_le_succ (Json.nesting_members_le members _ fun member present => ?_)
  obtain ⟨name, held⟩ := member
  obtain ⟨contract, listed, meetsHeld⟩ := known (name, held) present
  have integrations := bounds_list _ 2 _
    (bounds_integration (Contract.follow definitions ((Json.obj members).nesting + 1)))
  have scalar := fun keywords => bounds_scalar
    (Contract.follow definitions ((Json.obj members).nesting + 1)) [.string] keywords (by simp)
  simp only [List.mem_cons, Prod.mk.injEq, List.not_mem_nil, or_false] at listed
  rcases listed with ⟨rfl, rfl⟩ | ⟨rfl, rfl⟩ | ⟨rfl, rfl⟩ | ⟨rfl, rfl⟩
  · exact Nat.le_trans (integrations held meetsHeld) (by omega)
  · exact Nat.le_trans (scalar _ held meetsHeld) (Nat.zero_le _)
  · have nested := Json.nesting_member members "fields" held present
    have list := field_list_nesting _ held
      (fun item smaller => field_nesting _ item (by simp only [Json.nesting]; omega))
      (Json.ordered_member members ordered _ held present) meetsHeld
    have found := Keyed.sorted_find "fields" held members sorted present
    simpa [formDepth, Json.get?, found] using list
  · exact Nat.le_trans (scalar _ held meetsHeld) (Nat.zero_le _)

end Form

end FormEngine.FormDocument
