import FormEngine.Proofs.Contract.Places

/-!
What a contract finds within a part of a value. Below a member or an item it is what the contracts
for that part find there, in the same order, whatever is wrong elsewhere in the value.
-/

namespace FormEngine

/-- What the keyword objects to, it objects to at the value or at one of its members. -/
def Keyword.looksNear : Keyword → Bool
  | .properties false known => known.all fun entry => entry.2.looksHere
  | keyword => keyword.looksHere

namespace Contract

section Within

/-- A violation as it is found from a node on, if its place is at or below that node. -/
def Violation.within? : Json.Pointer → Violation → Option Violation
  | [], violation => some violation
  | step :: rest, ⟨first :: place, fault⟩ =>
      if first = step then within? rest ⟨place, fault⟩ else none
  | _ :: _, ⟨[], _⟩ => none

def within (pointer : Json.Pointer) (found : List Violation) : List Violation :=
  found.filterMap (Violation.within? pointer)

/-- A violation of a node as one of a value that has the node at a pointer. -/
def Violation.rerooted (pointer : Json.Pointer) (violation : Violation) : Violation :=
  ⟨pointer ++ violation.place, violation.fault⟩

theorem within_iff (pointer : Json.Pointer) (violation inner : Violation) :
    violation.within? pointer = some inner ↔ violation = inner.rerooted pointer := by
  fun_induction Violation.within? pointer violation with
  | case1 violation =>
      rw [Option.some.injEq]
      rfl
  | case2 step rest place fault ih =>
      rw [ih]
      simp [Violation.rerooted]
  | case3 step rest first place fault other => simp [Violation.rerooted, other]
  | case4 step rest fault => simp [Violation.rerooted]

theorem within_further? (pointer further : Json.Pointer) (violation : Violation) :
    violation.within? (pointer ++ further) =
      (violation.within? pointer).bind (Violation.within? further) := by
  fun_induction Violation.within? pointer violation with
  | case1 violation => rfl
  | case2 step rest place fault ih =>
      rw [List.cons_append, Violation.within?, if_pos rfl, ih]
  | case3 step rest first place fault other =>
      rw [List.cons_append, Violation.within?, if_neg other]
      rfl
  | case4 step rest fault => rfl

variable (pointer : Json.Pointer) (found : List Violation)

theorem within_rerooted :
    found.filter (fun violation => pointer.isPrefixOf violation.place) =
      (within pointer found).map (Violation.rerooted pointer) := by
  induction found with
  | nil => rfl
  | cons violation rest ih =>
      rw [within, List.filterMap_cons, List.filter_cons, ih]
      cases below : violation.within? pointer with
      | none =>
          have aside : pointer.isPrefixOf violation.place = false := by
            refine Bool.eq_false_iff.mpr fun within => ?_
            obtain ⟨further, same⟩ := List.isPrefixOf_iff_prefix.mp within
            have there := (within_iff pointer violation ⟨further, violation.fault⟩).mpr
              (by rw [Violation.rerooted, same])
            rw [below] at there
            cases there
          rw [aside]
          rfl
      | some inner =>
          have same := (within_iff pointer violation inner).mp below
          have inside : pointer.isPrefixOf violation.place = true :=
            List.isPrefixOf_iff_prefix.mpr ⟨inner.place, by rw [same]; rfl⟩
          rw [inside]
          dsimp only
          rw [if_pos rfl, List.map_cons, ← same]
          rfl

theorem within_root : within [] found = found := List.filterMap_some

theorem within_append (left right : List Violation) :
    within pointer (left ++ right) = within pointer left ++ within pointer right :=
  List.filterMap_append

theorem within_further (further : Json.Pointer) :
    within (pointer ++ further) found = within further (within pointer found) := by
  rw [within, within, within, List.filterMap_filterMap]
  exact congrArg (List.filterMap · found) (funext (within_further? pointer further))

variable (step : Json.Step)

theorem within_here (here : Here found) :
    within (step :: pointer) found = [] := by
  refine List.filterMap_eq_nil_iff.mpr fun violation listed => ?_
  obtain ⟨place, fault⟩ := violation
  obtain rfl : place = [] := here _ listed
  rfl

theorem within_below :
    within (step :: pointer) (found.map (.below step)) = within pointer found := by
  have same : Violation.within? (step :: pointer) ∘ .below step = Violation.within? pointer := by
    funext violation
    rw [Function.comp_apply, Violation.below, Violation.within?, if_pos rfl]
  rw [within, List.filterMap_map, same, within]

theorem within_beside (other : Json.Step) (different : other ≠ step) :
    within (step :: pointer) (found.map (.below other)) = [] := by
  refine List.filterMap_eq_nil_iff.mpr fun violation listed => ?_
  obtain ⟨inner, _, rfl⟩ := List.mem_map.mp listed
  rw [Violation.below, Violation.within?, if_neg different]

end Within

section Parts

variable (pointer : Json.Pointer)

/-- Of the members only the one under the key counts. -/
theorem within_members (find : String → Json → List Violation) (name : String)
    (members : List (String × Json)) (sorted : Keyed.Sorted members) :
    within (.key name :: pointer)
        (members.flatMap fun entry => (find entry.1 entry.2).map (.below (.key entry.1))) =
      match Keyed.find? name members with
      | some value => within pointer (find name value)
      | none => [] := by
  induction members with
  | nil => rfl
  | cons entry rest ih =>
      obtain ⟨label, held⟩ := entry
      have later := ih (Keyed.sorted_tail _ rest sorted)
      rw [List.flatMap_cons, within_append, later, Keyed.find?]
      by_cases here : label = name
      · subst here
        have once : Keyed.find? label rest = none := by
          refine (Keyed.find_absent label rest).mpr fun other present => ?_
          exact String.lt_irrefl label ((List.pairwise_cons.mp sorted).1 (label, other) present)
        rw [once, if_pos rfl, within_below, List.append_nil]
      · have beside : Json.Step.key label ≠ .key name := fun same => here (Json.Step.key.inj same)
        rw [if_neg here, within_beside _ _ _ _ beside, List.nil_append]

variable (find : Json → List Violation)

theorem within_later_items (index start : Nat) (before : index < start) (items : List Json) :
    within (.index index :: pointer)
      ((items.zipIdx start).flatMap fun entry =>
        (find entry.1).map (.below (.index entry.2))) = [] := by
  induction items generalizing start with
  | nil => rfl
  | cons item rest ih =>
      have beside : Json.Step.index start ≠ .index index := by
        intro same
        exact Nat.ne_of_gt before (Json.Step.index.inj same)
      rw [List.zipIdx_cons, List.flatMap_cons, within_append, within_beside _ _ _ _ beside,
        ih (start + 1) (Nat.lt_succ_of_lt before), List.nil_append]

theorem within_items (index start : Nat) (items : List Json) :
    within (.index (start + index) :: pointer)
        ((items.zipIdx start).flatMap fun entry =>
          (find entry.1).map (.below (.index entry.2))) =
      match items[index]? with
      | some item => within pointer (find item)
      | none => [] := by
  induction items generalizing start index with
  | nil => rfl
  | cons item rest ih =>
      rw [List.zipIdx_cons, List.flatMap_cons, within_append]
      cases index with
      | zero =>
          rw [Nat.add_zero, within_below,
            within_later_items pointer find start (start + 1) (Nat.lt_succ_self start),
            List.append_nil]
          rfl
      | succ index =>
          have beside : Json.Step.index start ≠ .index (start + (index + 1)) := by
            intro same
            have equal := Json.Step.index.inj same
            omega
          rw [within_beside _ _ _ _ beside, List.nil_append, List.getElem?_cons_succ,
            ← ih index (start + 1), Nat.add_right_comm, Nat.add_assoc]

variable (refer : String → Json → List Violation)

/-- Below a member of a closed object stands what the contract for it finds, if there is one. -/
theorem within_closed (known : List (String × Contract)) (name : String)
    (members : List (String × Json)) (sorted : Keyed.Sorted members) :
    within (.key name :: pointer) (keywordViolations refer (.properties true known) (.obj members)) =
      match Keyed.find? name members with
      | some value => (Keyed.find? name known).elim [] fun contract =>
          within pointer (violations refer contract value)
      | none => [] := by
  have each : (fun entry : String × Json => knownViolations refer known entry.1 entry.2) =
      fun entry => ((Keyed.find? entry.1 known).elim [] fun contract =>
        violations refer contract entry.2).map (Violation.below (.key entry.1)) := by
    funext entry
    rw [known_violations_eq]
    cases Keyed.find? entry.1 known <;> rfl
  have found := within_members pointer
    (fun name value => (Keyed.find? name known).elim [] fun contract =>
      violations refer contract value) name members sorted
  have surplus (entries : List (String × Json)) (names : List String) :
      within (.key name :: pointer)
        (if entries.isEmpty then [] else [(⟨[], .unexpected names⟩ : Violation)]) = [] := by
    split
    · rfl
    · exact within_here _ _ _ (here_one _)
  rw [keywordViolations, within_append, each, found, surplus, List.append_nil]
  cases Keyed.find? name members with
  | none => rfl
  | some value => cases Keyed.find? name known <;> rfl

end Parts

section Near

variable (refer : String → Json → List Violation)

/-- Nothing is found more than one step into the value. -/
def Near (found : List Violation) : Prop := ∀ violation ∈ found, violation.place.length ≤ 1

theorem near_none : Near [] := fun _ listed => nomatch listed

theorem here_near (found : List Violation) (here : Here found) : Near found := by
  intro violation listed
  rw [here violation listed]
  exact Nat.zero_le 1

theorem members_near (known : List (String × Contract))
    (here : known.all (fun entry => entry.2.looksHere) = true) (members : List (String × Json)) :
    Near (memberViolations refer known members) := by
  induction known with
  | nil => exact near_none
  | cons entry rest ih =>
      obtain ⟨first, later⟩ := Bool.and_eq_true_iff.mp here
      rw [memberViolations]
      refine List.forall_mem_append.mpr ⟨?_, ih later⟩
      split
      · rename_i value _
        intro violation listed
        obtain ⟨inner, inside, rfl⟩ := List.mem_map.mp listed
        rw [Violation.below, contract_here refer entry.2 first value inner inside]
        exact Nat.le_refl 1
      · exact near_none

theorem keyword_near (keyword : Keyword) (near : keyword.looksNear = true) (value : Json) :
    Near (keywordViolations refer keyword value) := by
  by_cases here : keyword.looksHere = true
  · exact here_near _ (keyword_here refer keyword here value)
  · cases keyword with
    | properties closed known =>
        cases closed with
        | true => exact absurd near here
        | false =>
            unfold keywordViolations
            split
            · exact members_near refer known near _
            · exact near_none
    | _ => exact absurd near here

theorem keywords_near (keywords : List Keyword) (near : keywords.all Keyword.looksNear = true)
    (value : Json) : Near (keywordsViolations refer keywords value) := by
  induction keywords with
  | nil => exact near_none
  | cons keyword rest ih =>
      obtain ⟨first, later⟩ := Bool.and_eq_true_iff.mp near
      exact List.forall_mem_append.mpr ⟨keyword_near refer keyword first value, ih later⟩

/-- A clause on the type with nothing but such keywords. -/
def isNearClause : Contract → Bool
  | .node [.tagged _ (.node keywords)] => keywords.all Keyword.looksNear
  | _ => false

theorem clause_near (clause : Contract) (near : isNearClause clause = true) (value : Json) :
    Near (violations refer clause value) := by
  unfold isNearClause at near
  split at near
  · rename_i guard keywords
    simp only [violations, keywordsViolations, keywordViolations, List.append_nil]
    split
    · exact keywords_near refer keywords near value
    · exact near_none
  · cases near

theorem clauses_near (clauses : List Contract) (near : clauses.all isNearClause = true)
    (value : Json) : Near (partsViolations refer clauses value) := by
  induction clauses with
  | nil => exact near_none
  | cons clause rest ih =>
      obtain ⟨first, later⟩ := Bool.and_eq_true_iff.mp near
      exact List.forall_mem_append.mpr ⟨clause_near refer clause first value, ih later⟩

theorem within_near (pointer : Json.Pointer) (step next : Json.Step) (found : List Violation)
    (near : Near found) : within (step :: next :: pointer) found = [] := by
  refine List.filterMap_eq_nil_iff.mpr fun violation listed => ?_
  refine Option.eq_none_iff_forall_ne_some.mpr fun inner deeper => ?_
  have short := near violation listed
  rw [(within_iff _ violation inner).mp deeper, Violation.rerooted] at short
  simp at short

end Near

end Contract

end FormEngine
