import FormEngine.Proofs.Keyed
import FormEngine.Proofs.Values.Path
import FormEngine.Values.Shape

/-!
How deep values nest. The stack of objects that is worked off to check the shape of a document
decides as if each object were looked into where it stands. Written as JSON, a tree of values has
the shape of form values exactly when its groups do not nest too deep, since everything else in it
fits by its kind. A path leads no deeper than the groups nest, and in a tree that is not empty one
entry is as deep as the tree.
-/

namespace FormEngine.FormValues

open FormValue (nesting nestingEntries entriesToJson)

section Stack

mutual
/-- The shape with room for so many groups in one another. -/
def shaped (room : Nat) : Json → Bool
  | .str _ => true
  | .bool _ => true
  | .obj members =>
      match room with
      | 0 => false
      | room + 1 => shapedMembers room members
  | _ => false

def shapedMembers (room : Nat) : List (String × Json) → Bool
  | [] => true
  | (_, value) :: rest => shaped room value && shapedMembers room rest
end

/-- The objects on a stack and within them. -/
def objectsOn : List (List (String × Json) × Nat) → Nat
  | [] => 0
  | (members, _) :: waiting => objectCountMembers members + 1 + objectsOn waiting

variable (room depth : Nat) (members : List (String × Json))

theorem members_foreign (foreign : innerObjects? members = none) :
    shapedMembers room members = false := by
  induction members with
  | nil => cases foreign
  | cons member rest ih =>
      obtain ⟨name, value⟩ := member
      cases value with
      | obj inner =>
          have later := ih (Option.map_eq_none_iff.mp foreign)
          rw [shapedMembers, later, Bool.and_false]
      | str text => exact ih foreign
      | bool flag => exact ih foreign
      | _ => rfl

variable (inner : List (List (String × Json))) (found : innerObjects? members = some inner)

include found

theorem members_shaped :
    shapedMembers room members = inner.all fun object => shaped room (.obj object) := by
  induction members generalizing inner with
  | nil =>
      cases found
      rfl
  | cons member rest ih =>
      obtain ⟨name, value⟩ := member
      cases value with
      | obj object =>
          obtain ⟨others, later, rfl⟩ := Option.map_eq_some_iff.mp found
          rw [shapedMembers, ih others later, List.all_cons]
      | str text => exact ih inner found
      | bool flag => exact ih inner found
      | _ => cases found

theorem members_counted (waiting : List (List (String × Json) × Nat)) :
    objectsOn ((inner.map fun object => (object, depth)).reverse ++ waiting) =
      objectCountMembers members + objectsOn waiting := by
  induction members generalizing inner waiting with
  | nil =>
      cases found
      simp [objectCountMembers]
  | cons member rest ih =>
      obtain ⟨name, value⟩ := member
      cases value with
      | obj object =>
          obtain ⟨others, later, rfl⟩ := Option.map_eq_some_iff.mp found
          have beyond := ih others later ((object, depth) :: waiting)
          rw [List.map_cons, List.reverse_cons, List.append_assoc, List.singleton_append, beyond,
            objectsOn, objectCountMembers, objectCount]
          omega
      | str text => simpa [objectCountMembers, objectCount] using ih inner found waiting
      | bool flag => simpa [objectCountMembers, objectCount] using ih inner found waiting
      | _ => cases found

omit found in
/-- What is on the stack is looked into each by itself, in whatever order it is taken. -/
theorem shaped_from_stack (fuel : Nat) (stack : List (List (String × Json) × Nat))
    (enough : objectsOn stack ≤ fuel) :
    shapedFrom fuel stack =
      stack.all fun entry => shaped (maxNesting + 1 - entry.2) (.obj entry.1) := by
  induction fuel generalizing stack with
  | zero =>
      cases stack with
      | nil => rfl
      | cons entry waiting => simp [objectsOn] at enough
  | succ fuel ih =>
      cases stack with
      | nil => rfl
      | cons entry waiting =>
          obtain ⟨members, depth⟩ := entry
          rw [shapedFrom, List.all_cons]
          by_cases deep : maxNesting < depth
          · have full : maxNesting + 1 - depth = 0 := by omega
            rw [if_pos deep, full, shaped, Bool.false_and]
          · have left : maxNesting + 1 - depth = maxNesting - depth + 1 := by omega
            rw [if_neg deep, left, shaped]
            cases found : innerObjects? members with
            | none => rw [members_foreign _ members found, Bool.false_and]
            | some inner =>
                have room : objectsOn ((inner.map fun object => (object, depth + 1)).reverse ++
                    waiting) ≤ fuel := by
                  rw [members_counted (depth + 1) members inner found waiting]
                  rw [objectsOn] at enough
                  omega
                have below : maxNesting + 1 - (depth + 1) = maxNesting - depth := by omega
                dsimp only
                rw [ih _ room, List.all_append, List.all_reverse, List.all_map,
                  members_shaped _ members inner found]
                simp only [Function.comp_def, below]

omit found in
theorem has_shape_object : hasShape (.obj members) = shaped maxNesting (.obj members) := by
  have stack := shaped_from_stack (objectCountMembers members + 1) [(members, 1)]
    (by simp [objectsOn])
  rw [hasShape, stack]
  simp

end Stack

mutual
/-- There is room for a value when there is room for as many groups as it nests. -/
theorem shaped_to_json (room : Nat) (value : FormValue) :
    shaped room value.toJson = true ↔ value.nesting ≤ room := by
  cases value with
  | text value => simp [FormValue.toJson, shaped, nesting]
  | flag value => simp [FormValue.toJson, shaped, nesting]
  | group entries =>
      cases room with
      | zero => simp [FormValue.toJson, shaped, nesting]
      | succ room =>
          simpa [FormValue.toJson, shaped, nesting] using shaped_members_to_json room entries

theorem shaped_members_to_json (room : Nat) (entries : List (String × FormValue)) :
    shapedMembers room (entriesToJson entries) = true ↔ nestingEntries entries ≤ room := by
  cases entries with
  | nil => simp [entriesToJson, shapedMembers, nestingEntries]
  | cons entry rest =>
      obtain ⟨name, value⟩ := entry
      simp only [entriesToJson, shapedMembers, nestingEntries, Bool.and_eq_true, Nat.max_le]
      exact and_congr (shaped_to_json room value) (shaped_members_to_json room rest)
end

/-- The root counts as a group. -/
theorem has_shape_to_json (values : FormValues) :
    hasShape values.toJson = true ↔ nestingEntries values < maxNesting := by
  rw [toJson, has_shape_object]
  exact shaped_to_json maxNesting (.group values)

theorem nesting_entry (entries : FormValues) (key : String) (value : FormValue)
    (member : (key, value) ∈ entries) : value.nesting ≤ nestingEntries entries := by
  induction entries with
  | nil => simp at member
  | cons entry rest ih =>
      rcases List.mem_cons.mp member with rfl | later
      · exact Nat.le_max_left _ _
      · exact Nat.le_trans (ih later) (Nat.le_max_right _ _)

theorem deepest_entry (entries : FormValues) (filled : entries ≠ []) :
    ∃ key value, (key, value) ∈ entries ∧ value.nesting = nestingEntries entries := by
  induction entries with
  | nil => exact absurd rfl filled
  | cons entry rest ih =>
      obtain ⟨name, value⟩ := entry
      by_cases deeper : value.nesting < nestingEntries rest
      · have others : rest ≠ [] := by
          rintro rfl
          simp [nestingEntries] at deeper
        obtain ⟨key, deepest, member, same⟩ := ih others
        refine ⟨key, deepest, List.mem_cons_of_mem _ member, ?_⟩
        rw [same, nestingEntries, Nat.max_eq_right (Nat.le_of_lt deeper)]
      · refine ⟨name, value, List.mem_cons_self, ?_⟩
        rw [nestingEntries, Nat.max_eq_left (Nat.not_lt.mp deeper)]

theorem get_at_nesting (ids : List String) (values : FormValues) (value : FormValue)
    (found : getAt ids values = some value) : ids.length ≤ nestingEntries values + 1 := by
  induction ids generalizing values with
  | nil => simp
  | cons id rest ih =>
      cases rest with
      | nil => simp
      | cons next others =>
          rw [get_at_below id _ (by simp)] at found
          split at found
          · rename_i entries here
            have below := ih entries found
            have nested := nesting_entry values id _ (Keyed.find_member id _ values here)
            simp only [nesting, List.length_cons] at nested below ⊢
            omega
          · simp at found

end FormEngine.FormValues
