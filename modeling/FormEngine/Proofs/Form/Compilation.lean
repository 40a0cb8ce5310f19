import FormEngine.Form.Constraints

/-!
What compiling makes of a list of rules. Each slot of the constraints belongs to the last rule that
has something to say about it, whatever the rules after it say about the others. Compiling against
present values does the same with the rules that count there, and then lets the controlling field
choose the pattern, if the pattern chosen is one at all.
-/

namespace FormEngine

section Contributions

/-- What one rule says about each slot. -/
structure ValidationRule.Asks (rule : ValidationRule) (message : String) : Prop where
  asked : rule.required = some true
  message : message = if rule.message = "" then ConstraintSet.requiredMessage else rule.message

structure ValidationRule.Bounds (bound : ValidationRule → Option Nat) (rule : ValidationRule)
    (length : LengthBound) : Prop where
  given : bound rule = some length.value
  positive : 0 < length.value
  message : length.message = rule.message

/-- A pattern that is one: it says something and the language accepts it. -/
def PatternLanguage.Takes (language : PatternLanguage) (pattern : String) : Prop :=
  pattern ≠ "" ∧ language.accepts pattern = true

structure ValidationRule.Patterns (language : PatternLanguage) (rule : ValidationRule)
    (pattern : PatternRule) : Prop where
  given : rule.pattern = some pattern.pattern
  taken : language.Takes pattern.pattern
  message : pattern.message = rule.message

variable {Given : Type}

/-- The last rule that gives anything gives this. -/
def LastGiven (gives : ValidationRule → Given → Prop) (rules : List ValidationRule)
    (given : Given) : Prop :=
  ∃ before rule after, rules = before ++ rule :: after ∧ gives rule given ∧
    ∀ later ∈ after, ∀ other, ¬ gives later other

theorem last_given_cons (gives : ValidationRule → Given → Prop) (rule : ValidationRule)
    (rest : List ValidationRule) (given : Given) :
    LastGiven gives (rule :: rest) given ↔
      LastGiven gives rest given ∨
        (gives rule given ∧ ∀ later ∈ rest, ∀ other, ¬ gives later other) := by
  constructor
  · rintro ⟨before, last, after, same, gave, silent⟩
    cases before with
    | nil =>
        obtain ⟨rfl, rfl⟩ := List.cons.inj same
        exact Or.inr ⟨gave, silent⟩
    | cons first before =>
        obtain ⟨rfl, rfl⟩ := List.cons.inj same
        exact Or.inl ⟨before, last, after, rfl, gave, silent⟩
  · rintro (⟨before, last, after, rfl, gave, silent⟩ | ⟨gave, silent⟩)
    · exact ⟨rule :: before, last, after, rfl, gave, silent⟩
    · exact ⟨[], rule, rest, rfl, gave, silent⟩

/-- The slots of a set belong to the last rules that give something for them, and to no others. -/
structure ConstraintSet.LastOf (language : PatternLanguage) (rules : List ValidationRule)
    (constraints : ConstraintSet) : Prop where
  required : ∀ message, constraints.required = some message ↔
    LastGiven ValidationRule.Asks rules message
  minLength : ∀ length, constraints.minLength = some length ↔
    LastGiven (ValidationRule.Bounds ValidationRule.minLength) rules length
  maxLength : ∀ length, constraints.maxLength = some length ↔
    LastGiven (ValidationRule.Bounds ValidationRule.maxLength) rules length
  pattern : ∀ pattern, constraints.pattern = some pattern ↔
    LastGiven (ValidationRule.Patterns language) rules pattern

end Contributions

namespace ConstraintSet

variable (language : PatternLanguage) (rule : ValidationRule) (rules : List ValidationRule)

section Slots

theorem required_slot_iff (message : String) :
    requiredSlot rule = some message ↔ rule.Asks message := by
  unfold requiredSlot
  split
  · rename_i asked
    rw [Option.some.injEq]
    constructor
    · rintro rfl
      exact ⟨asked, by simp [String.isEmpty_iff]⟩
    · rintro ⟨_, rfl⟩
      simp [String.isEmpty_iff]
  · rename_i idle
    constructor
    · intro none
      cases none
    · rintro ⟨asked, _⟩
      exact absurd asked idle

theorem bound_slot_iff (bound : ValidationRule → Option Nat) (length : LengthBound) :
    boundSlot (bound rule) rule.message = some length ↔ rule.Bounds bound length := by
  obtain ⟨value, message⟩ := length
  constructor
  · intro filled
    unfold boundSlot at filled
    split at filled
    · rename_i held given
      split at filled
      · rename_i positive
        cases filled
        exact ⟨given, positive, rfl⟩
      · cases filled
    · cases filled
  · rintro ⟨given, positive, rfl⟩
    simp only at given positive
    simp [boundSlot, given, positive]

theorem pattern_slot_iff (pattern message : String) (chosen : PatternRule) :
    patternSlot language pattern message = some chosen ↔
      chosen = ⟨pattern, message⟩ ∧ language.Takes pattern := by
  unfold patternSlot PatternLanguage.Takes
  by_cases taken : (!pattern.isEmpty && language.accepts pattern) = true
  · rw [if_pos taken]
    simp only [Bool.and_eq_true, Bool.not_eq_eq_eq_not, Bool.not_true, ← Bool.not_eq_true,
      String.isEmpty_iff] at taken
    simp [taken, eq_comm]
  · rw [if_neg taken]
    simp only [Bool.and_eq_true, Bool.not_eq_eq_eq_not, Bool.not_true, ← Bool.not_eq_true,
      String.isEmpty_iff] at taken
    simp [taken]

theorem rule_pattern_iff (pattern : PatternRule) :
    (rule.pattern.bind fun text => patternSlot language text rule.message) = some pattern ↔
      rule.Patterns language pattern := by
  simp only [Option.bind_eq_some_iff, pattern_slot_iff]
  constructor
  · rintro ⟨text, given, rfl, taken⟩
    exact ⟨given, taken, rfl⟩
  · rintro ⟨given, taken, same⟩
    obtain ⟨text, message⟩ := pattern
    simp only at given taken same
    subst same
    exact ⟨text, given, rfl, taken⟩

end Slots

section Folding

variable {Given : Type} (slot : ConstraintSet → Option Given)
  (given : ValidationRule → Option Given) (gives : ValidationRule → Given → Prop)

-- The rules still to come decide, and what is held already counts only if all of them are silent.
theorem slot_after (adds : ∀ held rule, slot (add language held rule) = (given rule).or (slot held))
    (exact : ∀ rule value, given rule = some value ↔ gives rule value) (start : ConstraintSet)
    (value : Given) :
    slot (rules.foldl (add language) start) = some value ↔
      LastGiven gives rules value ∨
        (slot start = some value ∧ ∀ rule ∈ rules, ∀ other, ¬ gives rule other) := by
  induction rules generalizing start with
  | nil => simp [LastGiven]
  | cons rule rest ih =>
      rw [List.foldl_cons, ih, last_given_cons, adds, or_assoc]
      apply or_congr_right
      cases held : given rule with
      | none =>
          have silent : ∀ other, ¬ gives rule other := by
            intro other gave
            have filled := (exact rule other).mpr gave
            rw [held] at filled
            cases filled
          simp [silent]
      | some first =>
          have gave : gives rule first := (exact rule first).mp held
          have only : gives rule value ↔ first = value := by
            rw [← exact rule value, held, Option.some.injEq]
          have loud : ¬ ∀ other, ¬ gives rule other := fun silent => silent first gave
          simp [only, loud]

theorem slot_of_rules
    (adds : ∀ held rule, slot (add language held rule) = (given rule).or (slot held))
    (exact : ∀ rule value, given rule = some value ↔ gives rule value)
    (blank : slot empty = none) (value : Given) :
    slot (rules.foldl (add language) empty) = some value ↔ LastGiven gives rules value := by
  rw [slot_after language rules slot given gives adds exact, blank]
  simp

end Folding

/-- Later rules win slot by slot. -/
theorem folded_last : (rules.foldl (add language) empty).LastOf language rules := by
  constructor
  case required =>
    exact slot_of_rules language rules required requiredSlot ValidationRule.Asks
      (fun _ _ => rfl) required_slot_iff rfl
  case minLength =>
    exact slot_of_rules language rules minLength
      (fun rule => boundSlot rule.minLength rule.message) _ (fun _ _ => rfl)
      (fun rule => bound_slot_iff rule ValidationRule.minLength) rfl
  case maxLength =>
    exact slot_of_rules language rules maxLength
      (fun rule => boundSlot rule.maxLength rule.message) _ (fun _ _ => rfl)
      (fun rule => bound_slot_iff rule ValidationRule.maxLength) rfl
  case pattern =>
    exact slot_of_rules language rules pattern
      (fun rule => rule.pattern.bind fun text => patternSlot language text rule.message) _
      (fun _ _ => rfl) (rule_pattern_iff language) rfl

/-- Without a value only the required slot objects, and always with its message. -/
theorem check_nothing (constraints : ConstraintSet) :
    constraints.check language none = constraints.required := by
  unfold check
  cases constraints.required with
  | none => rfl
  | some message => rfl

end ConstraintSet

section Static

variable (language : PatternLanguage) (rules : List ValidationRule)

theorem compiled_after (start : CompiledRules) :
    (rules.foldl (CompiledRules.add language) start).constraints =
      rules.foldl (ConstraintSet.add language) start.constraints := by
  induction rules generalizing start with
  | nil => rfl
  | cons rule rest ih =>
      rw [List.foldl_cons, ih]
      rfl

theorem compiled_constraints :
    (compileRules language rules).constraints =
      rules.foldl (ConstraintSet.add language) .empty :=
  compiled_after language rules _

-- The flag and the required slot are set by the same rules, and neither is ever taken back.
theorem required_after (start : CompiledRules)
    (agree : start.isRequired = start.constraints.required.isSome) :
    (rules.foldl (CompiledRules.add language) start).isRequired =
      (rules.foldl (CompiledRules.add language) start).constraints.required.isSome := by
  induction rules generalizing start with
  | nil => exact agree
  | cons rule rest ih =>
      apply ih
      by_cases asked : rule.required = some true
      · simp [CompiledRules.add, ConstraintSet.add, ConstraintSet.requiredSlot, asked]
      · simp [CompiledRules.add, ConstraintSet.add, ConstraintSet.requiredSlot, asked, agree]

theorem compiled_required :
    (compileRules language rules).isRequired =
      (compileRules language rules).constraints.required.isSome :=
  required_after language rules _ rfl

end Static

section Dependent

variable (language : PatternLanguage) (rules : List ValidationRule)
  (dynamic : Option DynamicValidation) (source : ValueSource)

/-- A rule counts unless its guard names a value that its field does not hold. -/
def ValidationRule.Counts (rule : ValidationRule) : Prop :=
  ∀ guard, rule.guard = some guard → source guard.field = some guard.equals.toValue

theorem active_iff_counts (rule : ValidationRule) :
    rule.isActive source = true ↔ rule.Counts source := by
  unfold ValidationRule.isActive ValidationRule.Counts
  cases rule.guard with
  | none => simp
  | some guard =>
      cases held : source guard.field with
      | none => simp [held]
      | some observed =>
          simp only [Option.some.injEq, forall_eq', held]
          exact decide_eq_true_iff

instance (rule : ValidationRule) : Decidable (rule.Counts source) :=
  decidable_of_iff _ (active_iff_counts source rule)

theorem active_folded (start : ConstraintSet) :
    rules.foldl (ConstraintSet.addActive language source) start =
      (rules.filter fun rule => rule.Counts source).foldl (ConstraintSet.add language) start := by
  induction rules generalizing start with
  | nil => rfl
  | cons rule rest ih =>
      have counted := active_iff_counts source rule
      by_cases counts : rule.Counts source
      · rw [List.filter_cons_of_pos (by simpa using counts), List.foldl_cons, List.foldl_cons,
          ConstraintSet.addActive, if_pos (counted.mpr counts), ih]
      · rw [List.filter_cons_of_neg (by simpa using counts), List.foldl_cons,
          ConstraintSet.addActive, if_neg (fun active => counts (counted.mp active)), ih]

/-- The controlling field holds a text that is not empty and has an entry whose pattern is one. -/
def Chooses (rule : PatternRule) : Prop :=
  ∃ config key, dynamic = some config ∧ source config.dependsOn = some (.text key) ∧ key ≠ "" ∧
    Keyed.find? key config.rules = some rule ∧ language.Takes rule.pattern

theorem chosen_iff (config : DynamicValidation) (rule : PatternRule) :
    config.chosen source = some rule ↔
      ∃ key, source config.dependsOn = some (.text key) ∧ key ≠ "" ∧
        Keyed.find? key config.rules = some rule := by
  unfold DynamicValidation.chosen
  constructor
  · intro found
    split at found
    · rename_i key held
      by_cases blank : key = ""
      · simp [blank] at found
      · exact ⟨key, held, blank, by simpa [String.isEmpty_iff, blank] using found⟩
    · cases found
  · rintro ⟨key, held, filled, found⟩
    simp [held, String.isEmpty_iff, filled, found]

theorem chooses_iff (rule : PatternRule) :
    Chooses language dynamic source rule ↔
      dynamic.bind (DynamicValidation.chosen source) = some rule ∧
        language.Takes rule.pattern := by
  simp only [Chooses, Option.bind_eq_some_iff, chosen_iff]
  constructor
  · rintro ⟨config, key, given, held, filled, found, taken⟩
    exact ⟨⟨config, given, key, held, filled, found⟩, taken⟩
  · rintro ⟨⟨config, given, key, held, filled, found⟩, taken⟩
    exact ⟨config, key, given, held, filled, found, taken⟩

/-- What present values make of the rules: the constraints of those that count, with the pattern
that the controlling field chooses, if it chooses one. -/
structure Follows (active dependent : ConstraintSet) : Prop where
  chosen : ∀ rule, Chooses language dynamic source rule →
    dependent = { active with pattern := some rule }
  others : (∀ rule, ¬ Chooses language dynamic source rule) → dependent = active

theorem dependent_follows :
    Follows language dynamic source
      ((rules.filter fun rule => rule.Counts source).foldl (ConstraintSet.add language) .empty)
      (compileDependent language rules dynamic source) := by
  unfold compileDependent
  rw [active_folded language rules source]
  generalize (rules.filter fun rule => rule.Counts source).foldl _ _ = active
  constructor
  case chosen =>
    intro rule chooses
    obtain ⟨found, taken⟩ := (chooses_iff language dynamic source rule).mp chooses
    have filled := (ConstraintSet.pattern_slot_iff language rule.pattern rule.message rule).mpr
      ⟨rfl, taken⟩
    simp [found, filled]
  case others =>
    intro none
    cases found : dynamic.bind (DynamicValidation.chosen source) with
    | none => rfl
    | some rule =>
        have refused : ¬ language.Takes rule.pattern := fun taken =>
          none rule ((chooses_iff language dynamic source rule).mpr ⟨found, taken⟩)
        have blank : ConstraintSet.patternSlot language rule.pattern rule.message = .none := by
          refine Option.eq_none_iff_forall_ne_some.mpr fun other filled => refused ?_
          exact ((ConstraintSet.pattern_slot_iff language _ _ other).mp filled).2
        simp [blank]

end Dependent

/-- Compiling with and without present values agree on the rules that count, and in both the last
rule that gives something for a slot has it. -/
theorem compiled_slot_by_slot (language : PatternLanguage) (rules : List ValidationRule)
    (dynamic : Option DynamicValidation) (source : ValueSource) :
    let compiled := compileRules language rules
    let counting := compileRules language (rules.filter fun rule => rule.Counts source)
    Follows language dynamic source counting.constraints
        (compileDependent language rules dynamic source) ∧
      compiled.constraints.LastOf language rules ∧
      (compiled.isRequired = true ↔ compiled.constraints.required.isSome = true) ∧
      (compiled.constraints.required.isSome = true ↔
        (compiled.constraints.check language none).isSome = true) := by
  intro compiled counting
  refine ⟨?_, ?_, ?_, ?_⟩
  · rw [show counting.constraints = _ from compiled_constraints language _]
    exact dependent_follows language rules dynamic source
  · rw [show compiled.constraints = _ from compiled_constraints language rules]
    exact ConstraintSet.folded_last language rules
  · rw [show compiled.isRequired = _ from compiled_required language rules]
  · rw [ConstraintSet.check_nothing]

end FormEngine
