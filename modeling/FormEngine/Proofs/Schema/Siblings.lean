import FormEngine.Schema.Validation

/-!
The search for repeated ids. It walks lists of fields in a queue, and its result is empty exactly
when the ids of every list, at any depth, differ from one another.
-/

namespace FormEngine.Field

mutual
/-- Every list of fields below a field has different ids. -/
def DistinctBelow : Field → Prop
  | .leaf _ _ => True
  | .group _ _ fields => (fields.map Field.id).Nodup ∧ DistinctBelowAll fields

def DistinctBelowAll : List Field → Prop
  | [] => True
  | field :: rest => DistinctBelow field ∧ DistinctBelowAll rest
end

def Distinct (fields : List Field) : Prop :=
  (fields.map Field.id).Nodup ∧ DistinctBelowAll fields

theorem repeated_in_empty (seen : List String) (place : Json.Pointer)
    (level : List (Field × Nat)) :
    repeatedIn seen place level = [] ↔
      (level.map fun entry => entry.1.id).Nodup ∧ ∀ entry ∈ level, entry.1.id ∉ seen := by
  induction level generalizing seen with
  | nil => simp [repeatedIn]
  | cons entry rest ih =>
      obtain ⟨field, index⟩ := entry
      by_cases repeated : field.id ∈ seen
      · simp [repeatedIn, repeated]
      · simp only [repeatedIn, List.contains_eq_mem, repeated, decide_false, Bool.false_eq_true,
          ↓reduceIte, ih, List.mem_cons, not_or, List.map_cons, List.nodup_cons, List.mem_map,
          forall_eq_or_imp, not_exists, not_and]
        constructor
        · rintro ⟨unique, fresh⟩
          exact ⟨⟨fun other later => (fresh other later).1, unique⟩,
            not_false, fun other later => (fresh other later).2⟩
        · rintro ⟨⟨differ, unique⟩, _, fresh⟩
          exact ⟨unique, fun other later => ⟨differ other later, fresh other later⟩⟩

/-- The lists that still wait, each with the lists below it. -/
def waitingCount : List (List Field × Json.Pointer) → Nat
  | [] => 0
  | (level, _) :: waiting => groupCountAll level + 1 + waitingCount waiting

theorem waiting_append (left right : List (List Field × Json.Pointer)) :
    waitingCount (left ++ right) = waitingCount left + waitingCount right := by
  induction left with
  | nil => simp [waitingCount]
  | cons entry rest ih => simp only [List.cons_append, waitingCount, ih, Nat.add_assoc]

@[simp]
theorem child_lists_leaf (place : Json.Pointer) (info : FieldInfo) (kind : LeafKind)
    (index : Nat) (rest : List (Field × Nat)) :
    childLists place ((.leaf info kind, index) :: rest) = childLists place rest := rfl

@[simp]
theorem child_lists_group (place : Json.Pointer) (info : FieldInfo) (description : Option String)
    (fields : List Field) (index : Nat) (rest : List (Field × Nat)) :
    childLists place ((.group info description fields, index) :: rest) =
      (fields, place ++ [.index index, .key "fields"]) :: childLists place rest := rfl

theorem child_lists_count (place : Json.Pointer) (level : List Field) (start : Nat) :
    waitingCount (childLists place (level.zipIdx start)) = groupCountAll level := by
  induction level generalizing start with
  | nil => rfl
  | cons field rest ih =>
      have tail := ih (start + 1)
      cases field with
      | leaf info kind => simp [List.zipIdx_cons, groupCountAll, groupCount, tail]
      | group info description fields =>
          simp [waitingCount, List.zipIdx_cons, groupCountAll, groupCount, tail]

theorem child_lists_distinct (place : Json.Pointer) (level : List Field) (start : Nat) :
    (∀ entry ∈ childLists place (level.zipIdx start), Distinct entry.1) ↔
      DistinctBelowAll level := by
  induction level generalizing start with
  | nil => simp [childLists, DistinctBelowAll]
  | cons field rest ih =>
      have tail := ih (start + 1)
      cases field with
      | leaf info kind => simpa [List.zipIdx_cons, DistinctBelowAll, DistinctBelow] using tail
      | group info description fields =>
          rw [List.zipIdx_cons, child_lists_group, List.forall_mem_cons, tail]
          rfl

-- A list leaves the queue with every round and only the lists below it enter, so what waits
-- shrinks by one and the fuel suffices.
theorem repeated_from_empty (fuel : Nat) (queue : List (List Field × Json.Pointer))
    (enough : waitingCount queue ≤ fuel) :
    repeatedFrom fuel queue = [] ↔ ∀ entry ∈ queue, Distinct entry.1 := by
  induction fuel generalizing queue with
  | zero =>
      cases queue with
      | nil => simp [repeatedFrom]
      | cons entry rest => simp [waitingCount] at enough
  | succ fuel ih =>
      cases queue with
      | nil => simp [repeatedFrom]
      | cons entry waiting =>
          obtain ⟨level, place⟩ := entry
          have room : waitingCount (waiting ++ childLists place level.zipIdx) ≤ fuel := by
            have below := child_lists_count place level 0
            rw [waiting_append, below]
            rw [waitingCount] at enough
            omega
          have ids : (level.zipIdx.map fun entry => entry.1.id) = level.map Field.id := by
            have fields := List.map_map (g := Field.id) (f := Prod.fst) (l := level.zipIdx)
            rw [List.zipIdx_map_fst] at fields
            exact fields.symm
          have later : ∀ entry, entry ∈ waiting ++ childLists place level.zipIdx ↔
              entry ∈ waiting ∨ entry ∈ childLists place level.zipIdx := fun entry =>
            List.mem_append
          simp only [repeatedFrom, List.append_eq_nil_iff, repeated_in_empty, ids, ih _ room, later,
            or_imp, forall_and, child_lists_distinct, List.mem_cons, forall_eq]
          simp only [List.not_mem_nil, not_false_eq_true, implies_true, and_true, Distinct]
          exact ⟨fun ⟨unique, others, below⟩ => ⟨⟨unique, below⟩, others⟩,
            fun ⟨⟨unique, below⟩, others⟩ => ⟨unique, others, below⟩⟩

theorem duplicate_ids_empty (fields : List Field) :
    duplicateIds fields = [] ↔ Distinct fields := by
  have enough : waitingCount [(fields, [Json.Step.key "fields"])] ≤ groupCountAll fields + 1 := by
    simp [waitingCount]
  simp [duplicateIds, repeated_from_empty _ _ enough]

end FormEngine.Field
