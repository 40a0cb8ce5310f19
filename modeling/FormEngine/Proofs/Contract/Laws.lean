import FormEngine.Contract.Basic
import FormEngine.Proofs.Keyed

/-!
When a contract finds nothing to object to. Each keyword has one law, and a node is satisfied when
all its keywords are. The laws hold whatever a reference means, so definitions that refer to
themselves are opened one reference at a time.
-/

namespace FormEngine.Contract

variable (refer : String → Json → List Violation)

/-- A contract that a value meets finds no violation in it. -/
def Meets (contract : Contract) (value : Json) : Prop := violations refer contract value = []

def MeetsKeyword (keyword : Keyword) (value : Json) : Prop :=
  keywordViolations refer keyword value = []

@[simp]
theorem meets_never (value : Json) : ¬ Meets refer .never value := by
  simp [Meets, violations]

-- A contract with a name of its own has a law of its own, so nodes are only opened on request.
theorem meets_node (keywords : List Keyword) (value : Json) :
    Meets refer (.node keywords) value ↔
      ∀ keyword ∈ keywords, MeetsKeyword refer keyword value := by
  simp only [Meets, violations]
  induction keywords with
  | nil => simp [keywordsViolations]
  | cons keyword rest ih => simp [keywordsViolations, MeetsKeyword, ih]

section Keywords

attribute [local simp] keywordViolations

@[simp]
theorem meets_types (kinds : List Json.Kind) (value : Json) :
    MeetsKeyword refer (.types kinds) value ↔ ∃ kind ∈ kinds, kind.admits value = true := by
  simp only [MeetsKeyword, keywordViolations, List.any_eq_true]
  split <;> simp_all

@[simp]
theorem meets_constants (texts : List String) (value : Json) :
    MeetsKeyword refer (.constants texts) value ↔ ∃ text ∈ texts, value = .str text := by
  cases value with
  | str text => simp [MeetsKeyword]
  | _ => simp [MeetsKeyword]

@[simp]
theorem meets_not_negative (value : Json) :
    MeetsKeyword refer .notNegative value ↔ isNegative value = false := by
  simp [MeetsKeyword]

@[simp]
theorem meets_min_length (length : Nat) (value : Json) :
    MeetsKeyword refer (.minLength length) value ↔
      ∀ text, value = .str text → length ≤ text.length := by
  cases value with
  | str text => simp [MeetsKeyword]
  | _ => simp [MeetsKeyword]

@[simp]
theorem meets_min_items (count : Nat) (value : Json) :
    MeetsKeyword refer (.minItems count) value ↔
      ∀ items, value = .arr items → count ≤ items.length := by
  cases value with
  | arr items => simp [MeetsKeyword]
  | _ => simp [MeetsKeyword]

@[simp]
theorem meets_required (names : List String) (members : List (String × Json)) :
    MeetsKeyword refer (.required names) (.obj members) ↔
      ∀ name ∈ names, ∃ value, (name, value) ∈ members := by
  simp [MeetsKeyword, Keyed.contains_iff]

@[simp]
theorem meets_segment (value : Json) :
    MeetsKeyword refer .segment value ↔ ∀ text, value = .str text → isSegment text = true := by
  cases value with
  | str text => simp [MeetsKeyword]
  | _ => simp [MeetsKeyword]

@[simp]
theorem meets_all (parts : List Contract) (value : Json) :
    MeetsKeyword refer (.all parts) value ↔ ∀ part ∈ parts, Meets refer part value := by
  simp only [MeetsKeyword, keywordViolations]
  induction parts with
  | nil => simp [partsViolations]
  | cons part rest ih => simp [partsViolations, Meets, ih]

@[simp]
theorem meets_tagged (guard : TagGuard) (consequence : Contract) (value : Json) :
    MeetsKeyword refer (.tagged guard consequence) value ↔
      (guard.holds value = true → Meets refer consequence value) := by
  simp only [MeetsKeyword, keywordViolations, Meets]
  split <;> simp_all

@[simp]
theorem meets_definition (name : String) (value : Json) :
    MeetsKeyword refer (.definition name) value ↔ refer name value = [] := by
  simp [MeetsKeyword]

theorem known_violations_eq (known : List (String × Contract)) (name : String) (value : Json) :
    knownViolations refer known name value =
      match Keyed.find? name known with
      | some contract => (violations refer contract value).map (.below (.key name))
      | none => [] := by
  induction known with
  | nil => simp [knownViolations, Keyed.find?]
  | cons entry rest ih =>
      obtain ⟨label, contract⟩ := entry
      by_cases same : label = name <;> simp [knownViolations, Keyed.find?, same, ih]

/-- Every member of a closed object is known and meets the contract that stands for it. -/
@[simp]
theorem meets_closed_properties (known : List (String × Contract))
    (members : List (String × Json)) :
    MeetsKeyword refer (.properties true known) (.obj members) ↔
      ∀ member ∈ members, ∃ contract,
        Keyed.find? member.1 known = some contract ∧ Meets refer contract member.2 := by
  simp only [MeetsKeyword, keywordViolations, List.append_eq_nil_iff, List.flatMap_eq_nil_iff]
  constructor
  · rintro ⟨satisfied, onlyKnown⟩ member present
    have none : members.filter (fun entry => !Keyed.contains entry.1 known) = [] := by
      split at onlyKnown
      · rename_i empty
        exact List.isEmpty_iff.mp empty
      · simp at onlyKnown
    have labelled : Keyed.contains member.1 known = true := by
      simpa using List.filter_eq_nil_iff.mp none member present
    obtain ⟨contract, found⟩ := Option.isSome_iff_exists.mp labelled
    have silent := satisfied member present
    rw [known_violations_eq, found] at silent
    exact ⟨contract, found, List.map_eq_nil_iff.mp silent⟩
  · intro each
    constructor
    · intro member present
      obtain ⟨contract, found, satisfied⟩ := each member present
      rw [known_violations_eq, found]
      exact List.map_eq_nil_iff.mpr satisfied
    · have none : members.filter (fun entry => !Keyed.contains entry.1 known) = [] := by
        apply List.filter_eq_nil_iff.mpr
        intro member present
        obtain ⟨contract, found, _⟩ := each member present
        simp [Keyed.contains, found]
      simp [none]

/-- Open properties only concern the members that are there. -/
@[simp]
theorem meets_open_properties (known : List (String × Contract))
    (members : List (String × Json)) :
    MeetsKeyword refer (.properties false known) (.obj members) ↔
      ∀ entry ∈ known, ∀ value, Keyed.find? entry.1 members = some value →
        Meets refer entry.2 value := by
  simp only [MeetsKeyword, keywordViolations]
  induction known with
  | nil => simp [memberViolations]
  | cons entry rest ih =>
      obtain ⟨label, contract⟩ := entry
      cases found : Keyed.find? label members with
      | none => simp [memberViolations, found, ih]
      | some value => simp [memberViolations, found, ih, Meets]

@[simp]
theorem meets_every_member (contract : Contract) (members : List (String × Json)) :
    MeetsKeyword refer (.everyMember contract) (.obj members) ↔
      ∀ member ∈ members, Meets refer contract member.2 := by
  simp [MeetsKeyword, Meets]

@[simp]
theorem meets_items (contract : Contract) (items : List Json) :
    MeetsKeyword refer (.items contract) (.arr items) ↔
      ∀ item ∈ items, Meets refer contract item := by
  simp only [MeetsKeyword, keywordViolations, List.flatMap_eq_nil_iff, List.map_eq_nil_iff]
  constructor
  · intro each item present
    obtain ⟨position, inside, same⟩ := List.mem_iff_getElem.mp present
    exact each (item, position) (by simp [List.mem_zipIdx_iff_getElem?, ← same])
  · intro each entry listed
    exact each entry.1 (List.fst_mem_of_mem_zipIdx listed)

theorem meets_exactly_one (options : List Contract) (value : Json) :
    MeetsKeyword refer (.exactlyOne options) value ↔ satisfied refer options value = 1 := by
  simp only [MeetsKeyword, keywordViolations]
  split <;> simp_all

end Keywords

end FormEngine.Contract
