import FormEngine.Form.Constraints
import FormEngine.Pattern.Language

/-!
The constraints held for a field follow the values. A refresh compares what was seen at the
referenced fields and compiles only when something there has changed, so it is right as long as
compiling looks nowhere else. It looks at the fields of the guards and at the controlling field;
all of them are referenced but the one under the empty path. Constraints can then go stale exactly
where trees that differ below the empty path alone compile apart.
-/

namespace FormEngine

section Reading

variable (language : PatternLanguage) (rules : List ValidationRule)
  (dynamic : Option DynamicValidation)

/-- The paths that compiling may look up. -/
def readPaths : List String :=
  rules.filterMap (fun rule => rule.guard.map RuleGuard.field) ++
    (dynamic.map DynamicValidation.dependsOn).toList

theorem guard_read (rule : ValidationRule) (guard : RuleGuard) (listed : rule ∈ rules)
    (guarded : rule.guard = some guard) : guard.field ∈ readPaths rules dynamic :=
  List.mem_append_left _ (List.mem_filterMap.mpr ⟨rule, listed, by simp [guarded]⟩)

theorem controlling_read (config : DynamicValidation) :
    config.dependsOn ∈ readPaths rules (some config) :=
  List.mem_append_right _ (by simp)

theorem mem_listed (path : String) (fields listed : List String) :
    path ∈ fields.foldl (fun fields field =>
        if field.isEmpty || fields.contains field then fields else fields ++ [field]) listed ↔
      path ∈ listed ∨ (path ∈ fields ∧ path ≠ "") := by
  induction fields generalizing listed with
  | nil => simp
  | cons field rest ih =>
      rw [List.foldl_cons, ih]
      -- What is skipped is listed already or empty, so it is missed on neither side.
      by_cases skipped : field = "" ∨ field ∈ listed
      · have kept : (field.isEmpty || listed.contains field) = true := by
          simpa [String.isEmpty_iff] using skipped
        rw [if_pos kept]
        grind
      · have added : ¬(field.isEmpty || listed.contains field) = true := by
          simpa [String.isEmpty_iff] using skipped
        rw [if_neg added]
        grind

/-- Every path that may be read is referenced, unless it is empty. -/
theorem mem_referenced (path : String) :
    path ∈ referencedFields rules dynamic ↔ path ∈ readPaths rules dynamic ∧ path ≠ "" := by
  simpa [referencedFields, readPaths] using mem_listed path (readPaths rules dynamic) []

theorem active_congr (rule : ValidationRule) (left right : ValueSource)
    (same : ∀ guard, rule.guard = some guard → left guard.field = right guard.field) :
    rule.isActive left = rule.isActive right := by
  unfold ValidationRule.isActive
  cases guarded : rule.guard with
  | none => rfl
  | some guard => simp only [same guard guarded]

theorem added_congr (left right : ValueSource)
    (same : ∀ rule ∈ rules, rule.isActive left = rule.isActive right) (start : ConstraintSet) :
    rules.foldl (ConstraintSet.addActive language left) start =
      rules.foldl (ConstraintSet.addActive language right) start := by
  induction rules generalizing start with
  | nil => rfl
  | cons rule rest ih =>
      obtain ⟨first, later⟩ := List.forall_mem_cons.mp same
      simp only [List.foldl_cons, ConstraintSet.addActive, first]
      exact ih later _

/-- Compiling looks nowhere else. -/
theorem compile_congr (left right : ValueSource)
    (same : ∀ path ∈ readPaths rules dynamic, left path = right path) :
    compileDependent language rules dynamic left =
      compileDependent language rules dynamic right := by
  have active : ∀ rule ∈ rules, rule.isActive left = rule.isActive right :=
    fun rule listed => active_congr rule left right fun guard guarded =>
      same _ (guard_read rules dynamic rule guard listed guarded)
  have folded := added_congr language rules left right active .empty
  have chosen : dynamic.bind (DynamicValidation.chosen left) =
      dynamic.bind (DynamicValidation.chosen right) := by
    cases dynamic with
    | none => rfl
    | some config =>
        simp only [Option.bind_some, DynamicValidation.chosen,
          same _ (controlling_read rules config)]
  unfold compileDependent
  rw [folded, chosen]

end Reading

namespace FieldConstraints

variable (language : PatternLanguage) (rules : List ValidationRule)
  (dynamic : Option DynamicValidation)

/-- Trees that a refresh cannot tell apart. -/
def Alike (left right : FormValues) : Prop :=
  ∀ path ∈ readPaths rules dynamic, path ≠ "" → left.getPath path = right.getPath path

/-- The constraints after a refresh for each of the trees in turn. -/
def refreshAll (held : FieldConstraints) (later : List FormValues) : FieldConstraints :=
  later.foldl (fun held values => (refresh language values.source held).1) held

/-- Whatever trees come in turn, the constraints held are those of the last one, and a refresh that
does nothing had nothing to do. -/
structure NeverStale (among : FormValues → Prop) : Prop where
  current : ∀ (first : FormValues) (later : List FormValues), among first →
    (∀ values ∈ later, among values) →
    (refreshAll language (create language rules dynamic first.source) later).constraints =
      compileDependent language rules dynamic (FormValues.source (later.getLastD first))
  quiet : ∀ (first : FormValues) (later : List FormValues) (next : FormValues), among first →
    (∀ values ∈ later, among values) → among next →
    let held := refreshAll language (create language rules dynamic first.source) later
    (refresh language next.source held).2 = false →
    (refresh language next.source held).1.constraints = held.constraints ∧
      compileDependent language rules dynamic next.source =
        compileDependent language rules dynamic (FormValues.source (later.getLastD first))

/-- What is held was compiled from a tree that looks like the present one. -/
structure Reflects (among : FormValues → Prop) (held : FieldConstraints) (present : FormValues) :
    Prop where
  fits : among present
  sameRules : held.rules = rules
  sameDynamic : held.dynamic = dynamic
  referenced : held.referenced = referencedFields rules dynamic
  observed : held.observed = (referencedFields rules dynamic).map present.source
  compiled : ∃ seen, among seen ∧ Alike rules dynamic seen present ∧
    held.constraints = compileDependent language rules dynamic seen.source

theorem observed_iff (left right : FormValues) :
    (referencedFields rules dynamic).map left.source =
        (referencedFields rules dynamic).map right.source ↔
      Alike rules dynamic left right := by
  rw [List.map_inj_left]
  constructor
  · intro same path read named
    exact same path ((mem_referenced rules dynamic path).mpr ⟨read, named⟩)
  · intro alike path listed
    obtain ⟨read, named⟩ := (mem_referenced rules dynamic path).mp listed
    exact alike path read named

variable {language rules dynamic}

theorem alike_trans {left middle right : FormValues} (first : Alike rules dynamic left middle)
    (second : Alike rules dynamic middle right) : Alike rules dynamic left right :=
  fun path read named => (first path read named).trans (second path read named)

section Steps

variable {among : FormValues → Prop} {held : FieldConstraints} {present : FormValues}

theorem create_reflects (first : FormValues) (fits : among first) :
    Reflects language rules dynamic among (create language rules dynamic first.source) first where
  fits := fits
  sameRules := rfl
  sameDynamic := rfl
  referenced := rfl
  observed := rfl
  compiled := ⟨first, fits, fun _ _ _ => rfl, rfl⟩

variable (reflects : Reflects language rules dynamic among held present)

include reflects

theorem refresh_alike (next : FormValues) (alike : Alike rules dynamic present next) :
    refresh language next.source held = (held, false) := by
  have same : held.referenced.map next.source = held.observed := by
    rw [reflects.referenced, reflects.observed]
    exact ((observed_iff rules dynamic present next).mpr alike).symm
  simp [refresh, same]

theorem refresh_apart (next : FormValues) (apart : ¬ Alike rules dynamic present next) :
    refresh language next.source held =
      ({ held with
          observed := (referencedFields rules dynamic).map next.source
          constraints := compileDependent language rules dynamic next.source }, true) := by
  have differ : ¬ held.referenced.map next.source = held.observed := by
    rw [reflects.referenced, reflects.observed]
    exact fun same => apart ((observed_iff rules dynamic present next).mp same.symm)
  rw [reflects.referenced] at differ
  simp [refresh, reflects.referenced, differ, reflects.sameRules, reflects.sameDynamic]

theorem refresh_reflects (next : FormValues) (fits : among next) :
    Reflects language rules dynamic among (refresh language next.source held).1 next := by
  by_cases alike : Alike rules dynamic present next
  · obtain ⟨seen, fitted, looked, compiled⟩ := reflects.compiled
    rw [refresh_alike reflects next alike]
    exact
      { fits
        sameRules := reflects.sameRules
        sameDynamic := reflects.sameDynamic
        referenced := reflects.referenced
        observed := reflects.observed.trans ((observed_iff rules dynamic present next).mpr alike)
        compiled := ⟨seen, fitted, alike_trans looked alike, compiled⟩ }
  · rw [refresh_apart reflects next alike]
    exact
      { fits
        sameRules := reflects.sameRules
        sameDynamic := reflects.sameDynamic
        referenced := reflects.referenced
        observed := rfl
        compiled := ⟨next, fits, fun _ _ _ => rfl, rfl⟩ }

theorem refresh_all_reflects (later : List FormValues) (fit : ∀ values ∈ later, among values) :
    Reflects language rules dynamic among (refreshAll language held later)
      (later.getLastD present) := by
  induction later generalizing held present with
  | nil => exact reflects
  | cons next rest ih =>
      obtain ⟨fits, others⟩ := List.forall_mem_cons.mp fit
      rw [List.getLastD_cons]
      exact ih (refresh_reflects reflects next fits) others

end Steps

variable (language rules dynamic)

theorem history_reflects {among : FormValues → Prop} (first : FormValues) (fits : among first)
    (later : List FormValues) (fit : ∀ values ∈ later, among values) :
    Reflects language rules dynamic among
      (refreshAll language (create language rules dynamic first.source) later)
      (later.getLastD first) :=
  refresh_all_reflects (create_reflects first fits) later fit

/-- The values that a refresh cannot tell apart give the same constraints. -/
def Settled (among : FormValues → Prop) : Prop :=
  ∀ left right, among left → among right → Alike rules dynamic left right →
    compileDependent language rules dynamic left.source =
      compileDependent language rules dynamic right.source

theorem never_stale_of_settled (among : FormValues → Prop)
    (settled : Settled language rules dynamic among) :
    NeverStale language rules dynamic among where
  current := by
    intro first later fits fit
    have reached := history_reflects language rules dynamic first fits later fit
    obtain ⟨seen, fitted, looked, compiled⟩ := reached.compiled
    exact compiled.trans (settled seen _ fitted reached.fits looked)
  quiet := by
    intro first later next fits fit other held unchanged
    have reached : Reflects language rules dynamic among held (later.getLastD first) :=
      history_reflects language rules dynamic first fits later fit
    have alike : Alike rules dynamic (later.getLastD first) next := by
      refine Classical.byContradiction fun apart => ?_
      simp [refresh_apart reached next apart] at unchanged
    rw [refresh_alike reached next alike]
    exact ⟨rfl, (settled _ next reached.fits other alike).symm⟩

/-- Constraints go stale only where trees that a refresh cannot tell apart compile apart. -/
theorem never_stale_iff (among : FormValues → Prop) :
    NeverStale language rules dynamic among ↔ Settled language rules dynamic among := by
  refine ⟨fun never left right fits other alike => ?_,
    never_stale_of_settled language rules dynamic among⟩
  have kept : (refresh language right.source
      (create language rules dynamic left.source)).1.constraints =
        compileDependent language rules dynamic left.source := by
    rw [refresh_alike (create_reflects left fits) right alike]
    rfl
  have current := never.current left [right] fits (by simpa using other)
  exact kept.symm.trans current

/-- A rule that asks for a value where the unnamed field is ticked. -/
def unnamedGuardRule : ValidationRule where
  guard := some ⟨"", .flag true⟩
  pattern := none
  message := "Say why"
  minLength := none
  maxLength := none
  required := some true

theorem unnamed_guard_goes_stale :
    ¬ NeverStale Pattern.language [unnamedGuardRule] none FormValues.Ordered := by
  intro never
  have alike : Alike [unnamedGuardRule] none [] [("", .flag true)] := by
    intro path read named
    simp [readPaths, unnamedGuardRule] at read
    exact absurd read named
  have same := (never_stale_iff _ _ _ _).mp never [] [("", .flag true)]
    (by simp [FormValues.Ordered, Keyed.Sorted, FormValue.OrderedEntries])
    (by simp [FormValues.Ordered, Keyed.Sorted, FormValue.OrderedEntries, FormValue.Ordered])
    alike
  exact absurd same (by decide)

/-- Where no rule reads the empty path, nothing goes stale. -/
theorem never_stale_of_named (named : "" ∉ readPaths rules dynamic)
    (among : FormValues → Prop) : NeverStale language rules dynamic among := by
  refine never_stale_of_settled language rules dynamic among fun left right _ _ alike => ?_
  refine compile_congr language rules dynamic left.source right.source fun path read => ?_
  exact alike path read fun unnamed => named (unnamed ▸ read)

/-- Nor does anything as long as the value under the empty path stays. -/
theorem never_stale_of_same_unnamed (unnamed : Option FormValue) :
    NeverStale language rules dynamic fun values => values.getPath "" = unnamed := by
  refine never_stale_of_settled language rules dynamic _ fun left right before after alike => ?_
  refine compile_congr language rules dynamic left.source right.source fun path read => ?_
  by_cases empty : path = ""
  · subst empty
    exact before.trans after.symm
  · exact alike path read empty

end FieldConstraints

end FormEngine
