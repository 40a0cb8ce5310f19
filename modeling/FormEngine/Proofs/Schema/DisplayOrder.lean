import FormEngine.Proofs.Schema.Positions

/-!
The order in which fields are displayed, and the search for their integrations. A list of fields is
laid out field by field, each followed by what is below it; by position this is the order in which a
position comes before those that go on from it, and a smaller number before a larger one. The search
holds what it has still to visit on a stack. Whatever is on the stack, the integrations found last
are those of the stack in this order, and every visit takes one field off.
-/

namespace FormEngine

namespace Field

mutual
/-- The integrations of a field and of those below it. -/
def declared : Field → List Integration
  | .leaf info _ => info.integration.toList
  | .group info _ fields => info.integration.toList ++ declaredAll fields

def declaredAll : List Field → List Integration
  | [] => []
  | field :: rest => declared field ++ declaredAll rest
end

mutual
/-- A field and those below it, with their positions from this field on. -/
def laidOut : Field → List (List Nat × Field)
  | .leaf info kind => [([], .leaf info kind)]
  | .group info description fields =>
      ([], .group info description fields) :: laidOutFrom 0 fields

/-- The fields of a list with all below them. The number is that of the first one. -/
def laidOutFrom (index : Nat) : List Field → List (List Nat × Field)
  | [] => []
  | field :: rest =>
      (laidOut field).map (fun entry => (index :: entry.1, entry.2)) ++
        laidOutFrom (index + 1) rest
end

section Declared

theorem declared_append (left right : List Field) :
    declaredAll (left ++ right) = declaredAll left ++ declaredAll right := by
  induction left with
  | nil => rfl
  | cons field rest ih => rw [List.cons_append, declaredAll, ih, declaredAll, List.append_assoc]

theorem declared_children (field : Field) :
    declared field =
      field.info.integration.toList ++ declaredAll (field.children?.getD []) := by
  cases field with
  | leaf info kind => exact (List.append_nil _).symm
  | group info description fields => rfl

mutual
theorem declared_laid_out : (field : Field) →
    declared field = (laidOut field).filterMap fun entry => entry.2.info.integration
  | .leaf info _ => by
      cases given : info.integration <;> simp [declared, laidOut, Field.info, given]
  | .group info _ fields => by
      have below := declared_laid_out_from 0 fields
      cases given : info.integration <;> simp [declared, laidOut, Field.info, given, below]

theorem declared_laid_out_from (index : Nat) : (fields : List Field) →
    declaredAll fields =
      (laidOutFrom index fields).filterMap fun entry => entry.2.info.integration
  | [] => rfl
  | field :: rest => by
      rw [declaredAll, declared_laid_out field, declared_laid_out_from (index + 1) rest,
        laidOutFrom, List.filterMap_append, List.filterMap_map]
      rfl
end

mutual
theorem declared_outline (parent : String) : (field : Field) →
    declared field = (outline parent field).filterMap fun entry => entry.2.info.integration
  | .leaf info _ => by
      cases given : info.integration <;> simp [declared, outline, Field.info, given]
  | .group info _ fields => by
      have below := declared_outline_all (Path.child parent info.id) fields
      cases given : info.integration <;> simp [declared, outline, Field.info, given, below]

/-- The outline of a form has its fields in the same order. -/
theorem declared_outline_all (parent : String) : (fields : List Field) →
    declaredAll fields =
      (outlineAll parent fields).filterMap fun entry => entry.2.info.integration
  | [] => rfl
  | field :: rest => by
      rw [declaredAll, declared_outline parent field, declared_outline_all parent rest,
        outlineAll, List.filterMap_append]
end

end Declared

section Positions

theorem later_number (index : Nat) (fields : List Field) (entry : List Nat × Field)
    (listed : entry ∈ laidOutFrom index fields) :
    ∃ number rest, entry.1 = number :: rest ∧ index ≤ number := by
  induction fields generalizing index with
  | nil => cases listed
  | cons field others ih =>
      rw [laidOutFrom] at listed
      rcases List.mem_append.mp listed with here | later
      · obtain ⟨inner, _, rfl⟩ := List.mem_map.mp here
        exact ⟨index, inner.1, rfl, Nat.le_refl index⟩
      · obtain ⟨number, rest, same, above⟩ := ih (index + 1) later
        exact ⟨number, rest, same, Nat.le_of_succ_le above⟩

mutual
theorem laid_out_rising : (field : Field) →
    (laidOut field).Pairwise fun first second => first.1 < second.1
  | .leaf info kind => List.pairwise_singleton _ _
  | .group info description fields => by
      rw [laidOut]
      refine List.pairwise_cons.mpr ⟨?_, laid_out_from_rising 0 fields⟩
      intro entry listed
      obtain ⟨number, rest, same, _⟩ := later_number 0 fields entry listed
      rw [same]
      exact List.nil_lt_cons number rest

theorem laid_out_from_rising (index : Nat) : (fields : List Field) →
    (laidOutFrom index fields).Pairwise fun first second => first.1 < second.1
  | [] => List.Pairwise.nil
  | field :: rest => by
      rw [laidOutFrom]
      refine List.pairwise_append.mpr ⟨?_, laid_out_from_rising (index + 1) rest, ?_⟩
      · refine List.pairwise_map.mpr ((laid_out_rising field).imp ?_)
        intro first second less
        exact List.cons_lt_cons_iff.mpr (Or.inr ⟨rfl, less⟩)
      · intro first within second later
        obtain ⟨inner, _, rfl⟩ := List.mem_map.mp within
        obtain ⟨number, others, same, above⟩ := later_number (index + 1) rest second later
        rw [same]
        exact List.cons_lt_cons_iff.mpr (Or.inl above)
end

theorem mem_laid_out_from (index : Nat) (fields : List Field) (entry : List Nat × Field) :
    entry ∈ laidOutFrom index fields ↔
      ∃ offset outer inner, fields[offset]? = some outer ∧ inner ∈ laidOut outer ∧
        entry = ((index + offset) :: inner.1, inner.2) := by
  induction fields generalizing index with
  | nil => simp [laidOutFrom]
  | cons field rest ih =>
      rw [laidOutFrom, List.mem_append, List.mem_map, ih]
      constructor
      · rintro (⟨inner, listed, rfl⟩ | ⟨offset, outer, inner, found, listed, rfl⟩)
        · exact ⟨0, field, inner, rfl, listed, rfl⟩
        · exact ⟨offset + 1, outer, inner, found, listed, by rw [Nat.add_right_comm]; rfl⟩
      · rintro ⟨offset, outer, inner, found, listed, rfl⟩
        cases offset with
        | zero =>
            obtain rfl := Option.some.inj found
            exact Or.inl ⟨inner, listed, rfl⟩
        | succ offset =>
            exact Or.inr ⟨offset, outer, inner, found, listed, by rw [Nat.add_right_comm]; rfl⟩

theorem laid_out_of_lies (field : Field) (position : List Nat) (above fields : List Field)
    (lies : Lies field position above fields) : (position, field) ∈ laidOutFrom 0 fields := by
  induction lies with
  | here index fields found =>
      refine (mem_laid_out_from 0 fields _).mpr ⟨index, field, ([], field), found, ?_, by simp⟩
      cases field <;> exact List.mem_cons_self
  | inside index rest info description children fields above found _ ih =>
      refine (mem_laid_out_from 0 fields _).mpr ⟨index, _, (rest, field), found, ?_, by simp⟩
      exact List.mem_cons_of_mem _ ih

-- By recursion on how deep groups nest, since a list and the children of one of its groups are no
-- part of the same induction.
theorem lies_of_laid_out (fields : List Field) (position : List Nat) (field : Field)
    (listed : (position, field) ∈ laidOutFrom 0 fields) :
    ∃ above, Lies field position above fields := by
  obtain ⟨index, outer, inner, found, within, same⟩ := (mem_laid_out_from 0 fields _).mp listed
  obtain ⟨rfl, rfl⟩ := Prod.mk.inj same
  rw [Nat.zero_add]
  cases outer with
  | leaf info kind =>
      obtain rfl := List.mem_singleton.mp within
      exact ⟨[], .here index fields found⟩
  | group info description children =>
      rcases List.mem_cons.mp within with here | below
      · subst here
        exact ⟨[], .here index fields found⟩
      · obtain ⟨above, lies⟩ := lies_of_laid_out children inner.1 inner.2 below
        exact ⟨_, .inside index inner.1 info description children fields above found lies⟩
termination_by groupDepthAll fields
decreasing_by exact depth_children info description children fields (List.mem_of_getElem? found)

end Positions

section Declarations

variable (fields : List Field)

/-- The integrations of fields, each with the position of the field that declares it. -/
def declarations : List (List Nat × Integration) :=
  (laidOutFrom 0 fields).filterMap fun entry =>
    entry.2.info.integration.map fun integration => (entry.1, integration)

theorem declarations_declared : (declarations fields).map Prod.snd = declaredAll fields := by
  rw [declared_laid_out_from 0 fields, declarations, List.map_filterMap]
  simp [Function.comp_def]

theorem declarations_rising :
    (declarations fields).Pairwise fun first second => first.1 < second.1 := by
  refine List.pairwise_filterMap.mpr ((laid_out_from_rising 0 fields).imp ?_)
  intro first second less left inner right outer
  obtain ⟨_, _, rfl⟩ := Option.map_eq_some_iff.mp inner
  obtain ⟨_, _, rfl⟩ := Option.map_eq_some_iff.mp outer
  exact less

theorem mem_declarations (position : List Nat) (integration : Integration) :
    (position, integration) ∈ declarations fields ↔
      ∃ above field, placeAt? position fields = some (above, field) ∧
        field.info.integration = some integration := by
  constructor
  · intro listed
    obtain ⟨⟨place, field⟩, here, given⟩ := List.mem_filterMap.mp listed
    obtain ⟨_, declares, same⟩ := Option.map_eq_some_iff.mp given
    obtain ⟨rfl, rfl⟩ := Prod.mk.inj same
    obtain ⟨above, lies⟩ := lies_of_laid_out fields place field here
    exact ⟨above, field, place_of_lies field place above fields lies, declares⟩
  · rintro ⟨above, field, place, declares⟩
    have lies := lies_of_place field position above fields place
    have here := laid_out_of_lies field position above fields lies
    exact List.mem_filterMap.mpr ⟨_, here, by rw [declares]; rfl⟩

end Declarations

end Field

namespace FormSchema

namespace Search

/-- The search after so many visits, if there was something to visit each time. -/
def after : Nat → Search → Option Search
  | 0, search => some search
  | visits + 1, search => search.visit?.bind (after visits)

-- The invariant of the search: what was found, and behind it what the stack will give.
theorem visit_keeps (search next : Search) (visited : search.visit? = some next) :
    next.found ++ Field.declaredAll next.stack =
      search.found ++ Field.declaredAll search.stack := by
  obtain ⟨found, stack⟩ := search
  cases stack with
  | nil => cases visited
  | cons field rest =>
      obtain rfl := Option.some.inj visited
      dsimp only
      rw [push_reversed, Field.declared_append, Field.declaredAll, Field.declared_children field,
        List.append_assoc, List.append_assoc]

theorem ends_after (search : Search) :
    search.after (fieldCountAll search.stack) =
      some ⟨search.found ++ Field.declaredAll search.stack, []⟩ := by
  generalize count : fieldCountAll search.stack = visits
  induction visits generalizing search with
  | zero =>
      obtain ⟨found, stack⟩ := search
      cases stack with
      | nil => simp [after, Field.declaredAll]
      | cons field rest => cases field <;> simp [fieldCountAll, fieldCount] at count
  | succ visits ih =>
      cases visited : search.visit? with
      | none =>
          obtain ⟨found, stack⟩ := search
          cases stack with
          | nil => cases count
          | cons field rest => cases visited
      | some next =>
          have fewer := visit_count search next visited
          rw [after, visited, Option.bind_some, ih next (by omega), visit_keeps search next visited]

theorem finish_after (visits : Nat) (search last : Search)
    (reached : search.after visits = some last) (empty : last.stack = []) :
    search.finish = last.found := by
  induction visits generalizing search with
  | zero =>
      obtain rfl := Option.some.inj reached
      have ended : search.visit? = none := by rw [visit?, empty]
      rw [finish]
      split
      · rfl
      · rename_i next visited
        rw [ended] at visited
        cases visited
  | succ visits ih =>
      obtain ⟨next, visited, further⟩ := Option.bind_eq_some_iff.mp reached
      rw [finish]
      split
      · rename_i ended
        rw [ended] at visited
        cases visited
      · rename_i other same
        obtain rfl := Option.some.inj (visited.symm.trans same)
        exact ih next further

theorem finish_found (search : Search) :
    search.finish = search.found ++ Field.declaredAll search.stack :=
  finish_after _ search _ (ends_after search) rfl

end Search

end FormSchema

end FormEngine
