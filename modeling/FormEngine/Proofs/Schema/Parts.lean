import FormEngine.Proofs.Contract.Laws
import FormEngine.Proofs.Json.Structure
import FormEngine.Proofs.Schema.Document
import FormEngine.Schema.Contract
import FormEngine.Schema.Decode

/-!
The parts of a form schema that hold no fields: the contract of each asks for its shape, and what
has the shape can be read. Only whole numbers set the two apart. The contract takes `4.0` for a
whole number and the model does not, so where a part holds numbers its shape follows from the
contract together with a successful reading.
-/

namespace FormEngine.FormDocument

open Contract (Meets Violation)
open FormSchema

variable (refer : String → Json → List Violation)

attribute [local simp] Json.Kind.admits

section Records

/-- Contract and shapes name the same members, and what stands for a name is related. -/
def Paired (related : String → Contract → Shape → Prop) :
    List (String × Contract) → List (String × Shape) → Prop
  | [], [] => True
  | (name, contract) :: known, (label, shape) :: shapes =>
      name = label ∧ related name contract shape ∧ Paired related known shapes
  | _, _ => False

variable (related : String → Contract → Shape → Prop)

theorem paired_shape (known : List (String × Contract)) (shapes : List (String × Shape))
    (paired : Paired related known shapes) (name : String) (contract : Contract)
    (present : (name, contract) ∈ known) :
    ∃ shape, (name, shape) ∈ shapes ∧ related name contract shape := by
  induction known generalizing shapes with
  | nil => simp at present
  | cons entry rest ih =>
      cases shapes with
      | nil => simp [Paired] at paired
      | cons other others =>
          obtain ⟨label, held⟩ := other
          obtain ⟨same, head, tail⟩ := paired
          rcases List.mem_cons.mp present with first | later
          · subst entry
            exact ⟨held, List.mem_cons.mpr (Or.inl (Prod.ext same rfl)), head⟩
          · obtain ⟨shape, listed, holds⟩ := ih others tail later
            exact ⟨shape, List.mem_cons_of_mem _ listed, holds⟩

theorem paired_contract (known : List (String × Contract)) (shapes : List (String × Shape))
    (paired : Paired related known shapes) (name : String) (shape : Shape)
    (present : (name, shape) ∈ shapes) :
    ∃ contract, (name, contract) ∈ known ∧ related name contract shape := by
  induction known generalizing shapes with
  | nil =>
      cases shapes with
      | nil => simp at present
      | cons _ _ => simp [Paired] at paired
  | cons entry rest ih =>
      cases shapes with
      | nil => simp at present
      | cons other others =>
          obtain ⟨same, head, tail⟩ := paired
          rcases List.mem_cons.mp present with first | later
          · subst other
            subst same
            exact ⟨entry.2, by simp, head⟩
          · obtain ⟨contract, listed, holds⟩ := ih others tail later
            exact ⟨contract, List.mem_cons_of_mem _ listed, holds⟩

theorem paired_weaker (stronger weaker : String → Contract → Shape → Prop)
    (known : List (String × Contract)) (shapes : List (String × Shape))
    (implies : ∀ name contract shape, stronger name contract shape → weaker name contract shape)
    (paired : Paired stronger known shapes) : Paired weaker known shapes := by
  induction known generalizing shapes with
  | nil => cases shapes <;> simp_all [Paired]
  | cons entry rest ih =>
      cases shapes with
      | nil => simp [Paired] at paired
      | cons other others =>
          obtain ⟨same, head, tail⟩ := paired
          exact ⟨same, implies _ _ _ head, ih others tail⟩

theorem meets_closed_record (required : List String) (known : List (String × Contract))
    (sorted : Keyed.Sorted known) (value : Json) :
    Meets refer (closedRecord required known) value ↔
      ∃ members, value = .obj members ∧
        (∀ name ∈ required, ∃ held, (name, held) ∈ members) ∧
        ∀ member ∈ members, ∃ contract,
          (member.1, contract) ∈ known ∧ Meets refer contract member.2 := by
  have listed : ∀ name contract,
      Keyed.find? name known = some contract ↔ (name, contract) ∈ known := fun name contract =>
    ⟨Keyed.find_member name contract known, Keyed.sorted_find name contract known sorted⟩
  cases value with
  | obj members => simp [closedRecord, Contract.meets_node, listed]
  | _ => simp [closedRecord, Contract.meets_node]

theorem null_meets_no_record (required : List String) (known : List (String × Contract)) :
    ¬ Meets refer (closedRecord required known) .null := by
  simp [closedRecord, Contract.meets_node]

theorem record_meets (required : List String) (known : List (String × Contract))
    (shapes : List (String × Shape)) (sorted : Keyed.Sorted known)
    (paired : Paired (fun _ contract shape => ∀ value, shape value → Meets refer contract value)
      known shapes) (value : Json) (record : IsRecord required shapes value) :
    Meets refer (closedRecord required known) value := by
  obtain ⟨members, same, complete, each⟩ := record
  refine (meets_closed_record refer required known sorted value).mpr ⟨members, same, complete, ?_⟩
  intro member present
  obtain ⟨shape, listed, holds⟩ := each member present
  obtain ⟨contract, stands, meets⟩ := paired_contract _ known shapes paired member.1 shape listed
  exact ⟨contract, stands, meets member.2 holds⟩

-- The relation may look at the members, which is where a successful reading comes in.
theorem record_of_meets (required : List String) (known : List (String × Contract))
    (shapes : List (String × Shape)) (sorted : Keyed.Sorted known)
    (members : List (String × Json))
    (paired : Paired (fun name contract shape => ∀ value, (name, value) ∈ members →
      Meets refer contract value → shape value) known shapes)
    (meets : Meets refer (closedRecord required known) (.obj members)) :
    IsRecord required shapes (.obj members) := by
  obtain ⟨others, same, complete, each⟩ :=
    (meets_closed_record refer required known sorted _).mp meets
  cases same
  refine ⟨members, rfl, complete, ?_⟩
  intro member present
  obtain ⟨contract, listed, meets⟩ := each member present
  obtain ⟨shape, stands, holds⟩ := paired_shape _ known shapes paired member.1 contract listed
  exact ⟨shape, stands, holds member.2 present meets⟩

theorem meets_record (required : List String) (known : List (String × Contract))
    (shapes : List (String × Shape)) (sorted : Keyed.Sorted known)
    (paired : Paired (fun _ contract shape => ∀ value, Meets refer contract value ↔ shape value)
      known shapes) (value : Json) :
    Meets refer (closedRecord required known) value ↔ IsRecord required shapes value := by
  constructor
  · intro meets
    obtain ⟨members, same, _⟩ := (meets_closed_record refer required known sorted value).mp meets
    subst same
    refine record_of_meets refer required known shapes sorted members ?_ meets
    exact paired_weaker _ _ known shapes (fun _ _ _ same value _ => (same value).mp) paired
  · apply record_meets refer required known shapes sorted
    exact paired_weaker _ _ known shapes (fun _ _ _ same value => (same value).mpr) paired

end Records

section Contracts

@[simp]
theorem meets_any_text (value : Json) : Meets refer anyText value ↔ IsText value := by
  cases value <;> simp [anyText, Contract.meets_node, IsText]

@[simp]
theorem meets_any_flag (value : Json) : Meets refer anyFlag value ↔ IsFlag value := by
  cases value <;> simp [anyFlag, Contract.meets_node, IsFlag]

@[simp]
theorem meets_any_scalar (value : Json) : Meets refer anyScalar value ↔ IsScalar value := by
  cases value <;> simp [anyScalar, Contract.meets_node, IsScalar, IsText, IsFlag]

@[simp]
theorem meets_one_of (texts : List String) (value : Json) :
    Meets refer (.node [.types [.string], .constants texts]) value ↔ IsOneOf texts value := by
  cases value <;> simp [Contract.meets_node, IsOneOf]

theorem whole_meets (value : Json) (whole : IsWhole value) : Meets refer wholeNumber value := by
  obtain ⟨count, rfl⟩ := whole
  simp [wholeNumber, Contract.meets_node, Contract.isNegative]

@[simp]
theorem meets_list_of (item : Contract) (value : Json) :
    Meets refer (listOf item) value ↔ IsListOf (Meets refer item) value := by
  cases value with
  | arr items => simp [listOf, Contract.meets_node, IsListOf]
  | _ => simp [listOf, Contract.meets_node, IsListOf]

theorem list_of_congr (left right : Shape) (value : Json)
    (same : ∀ item, left item ↔ right item) : IsListOf left value ↔ IsListOf right value := by
  simp [IsListOf, same]

-- No value is of two of the three kinds, so one of them is exactly one of them.
@[simp]
theorem meets_operand (value : Json) :
    Meets refer (.node [.exactlyOne [anyText, anyFlag, listOf anyText]]) value ↔
      IsOperand value := by
  classical
  have text := meets_any_text refer value
  have flag := meets_any_flag refer value
  have list := meets_list_of refer anyText value
  simp only [Meets] at text flag list
  simp only [Contract.meets_node, List.mem_singleton, forall_eq, Contract.meets_exactly_one,
    Contract.satisfied, List.isEmpty_iff, text, flag, list, IsOperand]
  cases value <;> simp [IsText, IsFlag, IsListOf]

@[simp]
theorem meets_choice (value : Json) : Meets refer choiceContract value ↔ IsChoice value :=
  meets_record refer _ _ _ (by decide) (by simp [Paired]) value

@[simp]
theorem meets_condition (value : Json) :
    Meets refer conditionContract value ↔ IsCondition value :=
  meets_record refer _ _ _ (by decide)
    (by simp [Paired]) value

@[simp]
theorem meets_visibility (value : Json) :
    Meets refer visibilityContract value ↔ IsVisibility value :=
  meets_record refer _ _ _ (by decide)
    (by simp [Paired, list_of_congr _ _ _ (meets_condition refer)]) value

@[simp]
theorem meets_rule_guard (value : Json) :
    Meets refer ruleGuardContract value ↔ IsRuleGuard value :=
  meets_record refer _ _ _ (by decide) (by simp [Paired]) value

@[simp]
theorem meets_pattern_rule (value : Json) :
    Meets refer patternRuleContract value ↔ IsPatternRule value :=
  meets_record refer _ _ _ (by decide) (by simp [Paired]) value

@[simp]
theorem meets_dictionary_of (entry : Contract) (value : Json) :
    Meets refer (.node [.types [.object], .everyMember entry]) value ↔
      IsDictionaryOf (Meets refer entry) value := by
  cases value with
  | obj members => simp [Contract.meets_node, IsDictionaryOf]
  | _ => simp [Contract.meets_node, IsDictionaryOf]

@[simp]
theorem meets_dynamic_validation (value : Json) :
    Meets refer dynamicValidationContract value ↔ IsDynamicValidation value :=
  meets_record refer _ _ _ (by decide)
    (by simp [Paired, IsDictionaryOf]) value

end Contracts

section Reading

/-- A decoder that takes a value. -/
def Reads {Value : Type} (decode : Decoder Value) (value : Json) : Prop :=
  ∃ result, decode value = .ok result

variable {Value : Type}

/-- Readings run in turn, so one that succeeds has succeeded at every step. -/
theorem bind_ok {Result : Type} (first : Except DecodeError Value)
    (next : Value → Except DecodeError Result) (result : Result) :
    (first >>= next) = .ok result ↔ ∃ value, first = .ok value ∧ next value = .ok result := by
  cases first <;> simp [bind, Except.bind]

theorem text_reads (value : Json) (text : IsText value) : Reads Decode.text value := by
  obtain ⟨held, rfl⟩ := text
  exact ⟨held, rfl⟩

theorem flag_reads (value : Json) (flag : IsFlag value) : Reads Decode.flag value := by
  obtain ⟨held, rfl⟩ := flag
  exact ⟨held, rfl⟩

theorem scalar_reads (value : Json) (scalar : IsScalar value) : Reads Decode.scalar value := by
  rcases scalar with ⟨held, rfl⟩ | ⟨held, rfl⟩
  · exact ⟨.text held, rfl⟩
  · exact ⟨.flag held, rfl⟩

theorem whole_reads_iff (value : Json) : Reads Decode.whole value ↔ IsWhole value := by
  constructor
  · rintro ⟨count, read⟩
    unfold Decode.whole at read
    split at read
    · exact ⟨_, rfl⟩
    · simp at read
    · simp [Decode.mismatch] at read
  · rintro ⟨count, rfl⟩
    exact ⟨count, rfl⟩

theorem items_read (decode : Decoder Value) (items : List Json)
    (each : ∀ item ∈ items, Reads decode item) :
    ∃ results, Decode.items decode items = .ok results := by
  induction items with
  | nil => exact ⟨[], rfl⟩
  | cons item rest ih =>
      obtain ⟨result, head⟩ := each item List.mem_cons_self
      obtain ⟨results, tail⟩ := ih fun other later => each other (List.mem_cons_of_mem item later)
      exact ⟨result :: results, by simp [Decode.items, head, tail, bind, Except.bind]⟩

theorem item_reads (decode : Decoder Value) (items : List Json) (results : List Value)
    (read : Decode.items decode items = .ok results) : ∀ item ∈ items, Reads decode item := by
  induction items generalizing results with
  | nil => simp
  | cons item rest ih =>
      cases head : decode item with
      | error fault => simp [Decode.items, head, bind, Except.bind] at read
      | ok result =>
          cases tail : Decode.items decode rest with
          | error fault => simp [Decode.items, head, tail, bind, Except.bind] at read
          | ok others =>
              intro other present
              rcases List.mem_cons.mp present with rfl | later
              · exact ⟨result, head⟩
              · exact ih others tail other later

theorem list_reads (shape : Shape) (decode : Decoder Value)
    (reads : ∀ item, shape item → Reads decode item) (value : Json)
    (list : IsListOf shape value) : Reads (Decode.list decode) value := by
  obtain ⟨items, rfl, each⟩ := list
  exact items_read decode items fun item present => reads item (each item present)

theorem dictionary_reads (shape : Shape) (decode : Decoder Value)
    (reads : ∀ entry, shape entry → Reads decode entry) (value : Json)
    (dictionary : IsDictionaryOf shape value) : Reads (Decode.dictionary decode) value := by
  obtain ⟨members, rfl, each⟩ := dictionary
  show ∃ entries, Decode.entries decode members = .ok entries
  induction members with
  | nil => exact ⟨[], rfl⟩
  | cons member rest ih =>
      obtain ⟨result, head⟩ := reads member.2 (each member List.mem_cons_self)
      obtain ⟨results, tail⟩ := ih fun other later => each other (List.mem_cons_of_mem member later)
      exact ⟨(member.1, result) :: results,
        by simp [Decode.entries, head, tail, bind, Except.bind]⟩

theorem required_reads (members : List (String × Json)) (name : String) (decode : Decoder Value)
    (complete : ∃ held, (name, held) ∈ members)
    (reads : ∀ held, (name, held) ∈ members → Reads decode held) :
    ∃ result, Decode.required members name decode = .ok result := by
  cases found : Keyed.find? name members with
  | none =>
      obtain ⟨held, present⟩ := complete
      exact absurd present ((Keyed.find_absent name members).mp found held)
  | some held =>
      simp only [Decode.required, found]
      exact reads held (Keyed.find_member name held members found)

theorem optional_reads (members : List (String × Json)) (name : String) (decode : Decoder Value)
    (reads : ∀ held, (name, held) ∈ members → Reads decode held) :
    ∃ result, Decode.optional members name decode = .ok result := by
  cases found : Keyed.find? name members with
  | none => exact ⟨none, by simp [Decode.optional, found]⟩
  | some held =>
      obtain ⟨result, read⟩ := reads held (Keyed.find_member name held members found)
      cases held with
      | null => exact ⟨none, by simp [Decode.optional, found]⟩
      | _ => exact ⟨some result, by simp [Decode.optional, found, read, Except.map]⟩

-- Only null is passed over, and no shape admits it.
theorem optional_read (members : List (String × Json)) (name : String) (decode : Decoder Value)
    (result : Option Value) (sorted : Keyed.Sorted members)
    (read : Decode.optional members name decode = .ok result) (held : Json)
    (present : (name, held) ∈ members) (notNull : held ≠ .null) : Reads decode held := by
  have found := Keyed.sorted_find name held members sorted present
  cases decoded : decode held with
  | ok value => exact ⟨value, decoded⟩
  | error fault => cases held <;> simp_all [Decode.optional, Except.map]

section Records

variable (names : List String) (known : List (String × Shape)) (members : List (String × Json))
  (complete : ∀ name ∈ names, ∃ held, (name, held) ∈ members)
  (each : ∀ member ∈ members, ∃ shape, (member.1, shape) ∈ known ∧ shape member.2)
  (name : String) (only : Shape) (decode : Decoder Value)
  (single : ∀ shape, (name, shape) ∈ known → shape = only)

include each single

/-- What stands under a name of a record has the shape that the record gives for it. -/
theorem record_member (held : Json) (present : (name, held) ∈ members) : only held := by
  obtain ⟨shape, listed, holds⟩ := each (name, held) present
  exact single shape listed ▸ holds

theorem record_optional (reads : ∀ held, only held → Reads decode held) :
    ∃ result, Decode.optional members name decode = .ok result :=
  optional_reads members name decode fun held present =>
    reads held (record_member known members each name only single held present)

include complete in
theorem record_required (demanded : name ∈ names)
    (reads : ∀ held, only held → Reads decode held) :
    ∃ result, Decode.required members name decode = .ok result :=
  required_reads members name decode (complete name demanded) fun held present =>
    reads held (record_member known members each name only single held present)

end Records

theorem choice_reads (value : Json) (choice : IsChoice value) : Reads Decode.choice value := by
  obtain ⟨members, rfl, complete, each⟩ := choice
  obtain ⟨label, readLabel⟩ := record_required _ _ members complete each "label" IsText
    Decode.text (by simp) (by simp) text_reads
  obtain ⟨text, readText⟩ := record_required _ _ members complete each "value" IsText
    Decode.text (by simp) (by simp) text_reads
  exact ⟨⟨label, text⟩, by
    simp [Decode.choice, Decode.attributes, readLabel, readText, bind, Except.bind]⟩

theorem operand_reads (value : Json) (operand : IsOperand value) : Reads Decode.operand value := by
  rcases operand with ⟨text, rfl⟩ | ⟨flag, rfl⟩ | ⟨items, rfl, each⟩
  · exact ⟨.text text, rfl⟩
  · exact ⟨.flag flag, rfl⟩
  · obtain ⟨texts, read⟩ := items_read Decode.text items fun item present =>
      text_reads item (each item present)
    exact ⟨.list texts, by simp [Decode.operand, read, Except.map]⟩

theorem comparison_reads (typed : Bool) (texts : List String) (value : Json)
    (tag : IsOneOf texts value) : Reads (Decode.comparison typed) value := by
  obtain ⟨text, _, rfl⟩ := tag
  exact ⟨_, rfl⟩

theorem condition_reads (typed : Bool) (value : Json) (condition : IsCondition value) :
    Reads (Decode.condition typed) value := by
  obtain ⟨members, rfl, complete, each⟩ := condition
  obtain ⟨field, readField⟩ := record_required _ _ members complete each "field" IsText
    Decode.text (by simp) (by simp) text_reads
  obtain ⟨comparison, readComparison⟩ := record_required _ _ members complete each "operator"
    (IsOneOf ["equals", "notEquals", "contains", "in"]) (Decode.comparison typed) (by simp)
    (by simp) (comparison_reads typed _)
  obtain ⟨operand, readOperand⟩ := record_required _ _ members complete each "value" IsOperand
    Decode.operand (by simp) (by simp) operand_reads
  exact ⟨⟨field, comparison, operand⟩, by
    simp [Decode.condition, Decode.attributes, readField, readComparison, readOperand, bind,
      Except.bind]⟩

theorem visibility_reads (typed : Bool) (value : Json) (rule : IsVisibility value) :
    Reads (Decode.visibilityRule typed) value := by
  obtain ⟨members, rfl, complete, each⟩ := rule
  obtain ⟨conditions, read⟩ := record_required _ _ members complete each "conditions" _
    (Decode.list (Decode.condition typed)) (by simp) (by simp)
    (list_reads IsCondition _ (condition_reads typed))
  exact ⟨⟨conditions⟩, by
    simp [Decode.visibilityRule, Decode.attributes, read, bind, Except.bind]⟩

theorem rule_guard_reads (value : Json) (guard : IsRuleGuard value) :
    Reads Decode.ruleGuard value := by
  obtain ⟨members, rfl, complete, each⟩ := guard
  obtain ⟨equals, readEquals⟩ := record_required _ _ members complete each "equals" IsScalar
    Decode.scalar (by simp) (by simp) scalar_reads
  obtain ⟨field, readField⟩ := record_required _ _ members complete each "field" IsText
    Decode.text (by simp) (by simp) text_reads
  exact ⟨⟨field, equals⟩, by
    simp [Decode.ruleGuard, Decode.attributes, readEquals, readField, bind, Except.bind]⟩

theorem rule_reads (value : Json) (rule : IsRule value) : Reads Decode.validationRule value := by
  obtain ⟨members, rfl, complete, each⟩ := rule
  obtain ⟨longest, readLongest⟩ := record_optional _ members each "maxLength" IsWhole
    Decode.whole (by simp) fun held => (whole_reads_iff held).mpr
  obtain ⟨message, readMessage⟩ := record_required _ _ members complete each "message" IsText
    Decode.text (by simp) (by simp) text_reads
  obtain ⟨shortest, readShortest⟩ := record_optional _ members each "minLength" IsWhole
    Decode.whole (by simp) fun held => (whole_reads_iff held).mpr
  obtain ⟨pattern, readPattern⟩ := record_optional _ members each "pattern" IsText
    Decode.text (by simp) text_reads
  obtain ⟨demanded, readDemanded⟩ := record_optional _ members each "required" IsFlag
    Decode.flag (by simp) flag_reads
  obtain ⟨guard, readGuard⟩ := record_optional _ members each "when" IsRuleGuard
    Decode.ruleGuard (by simp) rule_guard_reads
  exact ⟨⟨guard, pattern, message, shortest, longest, demanded⟩, by
    simp [Decode.validationRule, Decode.attributes, readLongest, readMessage, readShortest,
      readPattern, readDemanded, readGuard, bind, Except.bind]⟩

theorem pattern_rule_reads (value : Json) (rule : IsPatternRule value) :
    Reads Decode.patternRule value := by
  obtain ⟨members, rfl, complete, each⟩ := rule
  obtain ⟨message, readMessage⟩ := record_required _ _ members complete each "message" IsText
    Decode.text (by simp) (by simp) text_reads
  obtain ⟨pattern, readPattern⟩ := record_required _ _ members complete each "pattern" IsText
    Decode.text (by simp) (by simp) text_reads
  exact ⟨⟨pattern, message⟩, by
    simp [Decode.patternRule, Decode.attributes, readMessage, readPattern, bind, Except.bind]⟩

theorem dynamic_validation_reads (value : Json) (dynamic : IsDynamicValidation value) :
    Reads Decode.dynamicValidation value := by
  obtain ⟨members, rfl, complete, each⟩ := dynamic
  obtain ⟨dependsOn, readDepends⟩ := record_required _ _ members complete each "dependsOn" IsText
    Decode.text (by simp) (by simp) text_reads
  obtain ⟨rules, readRules⟩ := record_required _ _ members complete each "rules" _
    (Decode.dictionary Decode.patternRule) (by simp) (by simp)
    (dictionary_reads IsPatternRule _ pattern_rule_reads)
  exact ⟨⟨dependsOn, rules⟩, by
    simp [Decode.dynamicValidation, Decode.attributes, readDepends, readRules, bind, Except.bind]⟩

theorem integration_reads (value : Json) (integration : IsIntegration value) :
    Reads Decode.integration value := by
  obtain ⟨members, rfl, complete, each⟩ := integration
  obtain ⟨debounce, readDebounce⟩ := record_optional _ members each "debounceMs" IsWhole
    Decode.whole (by simp) fun held => (whole_reads_iff held).mpr
  obtain ⟨endpoint, readEndpoint⟩ := record_required _ _ members complete each "endpoint" IsText
    Decode.text (by simp) (by simp) text_reads
  obtain ⟨sources, readSources⟩ := record_required _ _ members complete each "sourceFields" _
    (Decode.list Decode.text) (by simp) (by simp) (list_reads IsText _ text_reads)
  obtain ⟨targets, readTargets⟩ := record_required _ _ members complete each "targetFields" _
    (Decode.list Decode.text) (by simp) (by simp) (list_reads IsText _ text_reads)
  exact ⟨⟨endpoint, sources, targets, debounce⟩, by
    simp [Decode.integration, Decode.attributes, readDebounce, readEndpoint, readSources,
      readTargets, bind, Except.bind]⟩

end Reading

/-! The two parts with numbers. A reading that succeeds has taken every number as a whole one. -/

section Numbers

theorem null_meets_no_number : ¬ Meets refer wholeNumber .null := by
  simp [wholeNumber, Contract.meets_node]

theorem optional_whole (members : List (String × Json)) (name : String) (result : Option Nat)
    (sorted : Keyed.Sorted members)
    (read : Decode.optional members name Decode.whole = .ok result) (held : Json)
    (present : (name, held) ∈ members) (meets : Meets refer wholeNumber held) : IsWhole held := by
  have notNull : held ≠ .null := by
    rintro rfl
    exact null_meets_no_number refer meets
  exact (whole_reads_iff held).mp
    (optional_read members name Decode.whole result sorted read held present notNull)

theorem rule_meets (value : Json) (rule : IsRule value) :
    Meets refer validationRuleContract value :=
  record_meets refer _ _ _ (by decide)
    (by simp +contextual [Paired, whole_meets]) value rule

theorem rule_of_meets (value : Json) (ordered : value.Ordered)
    (meets : Meets refer validationRuleContract value) (read : Reads Decode.validationRule value) :
    IsRule value := by
  obtain ⟨members, rfl, _⟩ :=
    (meets_closed_record refer _ _ (by decide) value).mp meets
  have sorted : Keyed.Sorted members := ordered.1
  obtain ⟨rule, read⟩ := read
  simp only [Decode.validationRule, Decode.attributes, bind_ok] at read
  obtain ⟨_, same, longest, readLongest, _, _, shortest, readShortest, _⟩ := read
  cases same
  apply record_of_meets refer _ _ _ (by decide) members _ meets
  simp +contextual only [Paired, meets_any_text, meets_any_flag, meets_rule_guard, implies_true,
    and_self, and_true, true_and]
  exact ⟨fun held => optional_whole refer members "maxLength" longest sorted readLongest held,
    fun held => optional_whole refer members "minLength" shortest sorted readShortest held⟩

theorem integration_meets (value : Json) (integration : IsIntegration value) :
    Meets refer integrationContract value :=
  record_meets refer _ _ _ (by decide)
    (by simp +contextual [Paired, whole_meets, IsListOf]) value integration

theorem integration_of_meets (value : Json) (ordered : value.Ordered)
    (meets : Meets refer integrationContract value) (read : Reads Decode.integration value) :
    IsIntegration value := by
  obtain ⟨members, rfl, _⟩ :=
    (meets_closed_record refer _ _ (by decide) value).mp meets
  have sorted : Keyed.Sorted members := ordered.1
  obtain ⟨integration, read⟩ := read
  simp only [Decode.integration, Decode.attributes, bind_ok] at read
  obtain ⟨_, same, debounce, readDebounce, _⟩ := read
  cases same
  apply record_of_meets refer _ _ _ (by decide) members _ meets
  simp +contextual only [Paired, meets_any_text, meets_list_of,
    list_of_congr _ _ _ (meets_any_text refer), implies_true, and_self, and_true, true_and]
  exact fun held => optional_whole refer members "debounceMs" debounce sorted readDebounce held

end Numbers

end FormEngine.FormDocument
