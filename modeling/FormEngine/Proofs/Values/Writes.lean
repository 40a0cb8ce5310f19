import FormEngine.Proofs.Keyed
import FormEngine.Proofs.Values.Path
import FormEngine.Session.State

/-!
What a write to a path does to the values at other paths. Above the path there is a group afterwards
that holds the written value, below it there is what the written value holds there, and everywhere
else nothing changes. So what a path holds after a write follows from what it held before, whatever
the rest of the values. Each law is stated for segments first and then for dotted paths.
-/

namespace FormEngine

namespace FormValues

/-- What a value holds at the segments below it. -/
def within (rest : List String) (value : FormValue) : Option FormValue :=
  match rest, value with
  | [], value => some value
  | segment :: rest, .group entries => getAt (segment :: rest) entries
  | _ :: _, _ => none

/-- The entries of a group; anything else has none. -/
def entriesOf : Option FormValue → FormValues
  | some (.group entries) => entries
  | _ => []

theorem get_at_append (front rest : List String) (values : FormValues) (started : front ≠ []) :
    getAt (front ++ rest) values = (getAt front values).bind (within rest) := by
  induction front generalizing values with
  | nil => exact absurd rfl started
  | cons id others ih =>
      cases others with
      | nil =>
          cases rest with
          | nil => cases found : getAt [id] values <;> simp [found, within]
          | cons next rest =>
              simp only [List.cons_append, List.nil_append, getAt]
              cases found : Keyed.find? id values with
              | none => rfl
              | some value => cases value <;> rfl
      | cons next others =>
          rw [List.cons_append, get_at_below id _ (by simp), get_at_below id _ (by simp)]
          split
          · exact ih _ (by simp)
          · rfl

-- Only the entry under the first segment matters.
theorem get_at_first (id : String) (rest : List String) (left right : FormValues)
    (same : Keyed.find? id left = Keyed.find? id right) :
    getAt (id :: rest) left = getAt (id :: rest) right := by
  cases rest with
  | nil => exact same
  | cons next others => rw [get_at_below id _ (by simp), get_at_below id _ (by simp), same]

theorem set_at_below (id : String) (rest : List String) (filled : rest ≠ []) (value : FormValue)
    (values : FormValues) :
    setAt (id :: rest) value values =
      Keyed.insert id (.group (setAt rest value (entriesOf (Keyed.find? id values)))) values := by
  cases rest with
  | nil => exact absurd rfl filled
  | cons next others => rfl

theorem get_set_same (path : List String) (value : FormValue) (values : FormValues)
    (filled : path ≠ []) : getAt path (setAt path value values) = some value := by
  induction path generalizing values with
  | nil => exact absurd rfl filled
  | cons id rest ih =>
      cases rest with
      | nil => simp [setAt, getAt, Keyed.find_insert]
      | cons next others =>
          rw [set_at_below id _ (by simp), get_at_below id _ (by simp), Keyed.find_insert,
            if_pos rfl]
          exact ih _ (by simp)

theorem entries_within (id : String) (rest : List String) (filled : rest ≠ [])
    (values : FormValues) :
    getAt rest (entriesOf (Keyed.find? id values)) = getAt (id :: rest) values := by
  rw [get_at_below id _ filled]
  cases found : Keyed.find? id values with
  | none => exact get_at_empty rest
  | some value =>
      cases value with
      | group entries => rfl
      | _ => exact get_at_empty rest

theorem get_set_above (front rest : List String) (value : FormValue) (values : FormValues)
    (started : front ≠ []) (filled : rest ≠ []) :
    getAt front (setAt (front ++ rest) value values) =
      some (.group (setAt rest value (entriesOf (getAt front values)))) := by
  induction front generalizing values with
  | nil => exact absurd rfl started
  | cons id others ih =>
      rw [List.cons_append, set_at_below id _ (by simp [filled])]
      cases others with
      | nil =>
          rw [getAt, Keyed.find_insert, if_pos rfl]
          rfl
      | cons next others =>
          rw [get_at_below id _ (by simp), Keyed.find_insert, if_pos rfl]
          have inner := ih (entriesOf (Keyed.find? id values)) (by simp)
          rw [entries_within id _ (by simp)] at inner
          exact inner

theorem get_set_apart (path other : List String) (value : FormValue) (values : FormValues)
    (ahead : ¬ path <+: other) (behind : ¬ other <+: path) :
    getAt other (setAt path value values) = getAt other values := by
  induction path generalizing other values with
  | nil => exact absurd (List.nil_prefix) ahead
  | cons id rest ih =>
      cases other with
      | nil => exact absurd (List.nil_prefix) behind
      | cons first others =>
          by_cases same : first = id
          · subst same
            rw [List.cons_prefix_cons] at ahead behind
            have deeper : rest ≠ [] := by
              rintro rfl
              exact ahead ⟨rfl, List.nil_prefix⟩
            have lower : others ≠ [] := by
              rintro rfl
              exact behind ⟨rfl, List.nil_prefix⟩
            have inner := ih others (entriesOf (Keyed.find? first values))
              (fun leads => ahead ⟨rfl, leads⟩) (fun leads => behind ⟨rfl, leads⟩)
            rw [entries_within first _ lower] at inner
            rw [set_at_below first _ deeper, get_at_below first _ lower, Keyed.find_insert,
              if_pos rfl]
            exact inner
          · apply get_at_first
            cases rest with
            | nil => rw [setAt, Keyed.find_insert, if_neg same]
            | cons next rest => rw [set_at_below id _ (by simp), Keyed.find_insert, if_neg same]

section Order

theorem ordered_entries_iff (entries : FormValues) :
    FormValue.OrderedEntries entries ↔ ∀ entry ∈ entries, entry.2.Ordered := by
  induction entries with
  | nil => simp [FormValue.OrderedEntries]
  | cons entry rest ih => simp [FormValue.OrderedEntries, ih]

theorem insert_ordered (id : String) (value : FormValue) (values : FormValues)
    (held : value.Ordered) (ordered : Ordered values) : Ordered (Keyed.insert id value values) := by
  obtain ⟨sorted, inner⟩ := ordered
  refine ⟨Keyed.insert_sorted id value values sorted, ?_⟩
  rw [ordered_entries_iff] at inner ⊢
  intro entry present
  rcases Keyed.mem_insert id value values entry present with rfl | old
  · exact held
  · exact inner entry old

theorem entries_of_ordered (id : String) (values : FormValues) (ordered : Ordered values) :
    Ordered (entriesOf (Keyed.find? id values)) := by
  cases found : Keyed.find? id values with
  | none => exact ⟨List.Pairwise.nil, trivial⟩
  | some value =>
      have inner := (ordered_entries_iff values).mp ordered.2 (id, value)
        (Keyed.find_member id value values found)
      cases value with
      | group entries => exact inner
      | _ => exact ⟨List.Pairwise.nil, trivial⟩

/-- A write keeps every group in key order. -/
theorem set_at_ordered (path : List String) (value : FormValue) (values : FormValues)
    (held : value.Ordered) (ordered : Ordered values) : Ordered (setAt path value values) := by
  induction path generalizing values with
  | nil => exact ordered
  | cons id rest ih =>
      cases rest with
      | nil => exact insert_ordered id value values held ordered
      | cons next others =>
          rw [set_at_below id _ (by simp)]
          exact insert_ordered id _ values (ih _ (entries_of_ordered id values ordered)) ordered

end Order

section Paths

variable (path other : String) (rest : List String) (value : FormValue) (values : FormValues)

theorem get_path_further (joined : Path.segments other = Path.segments path ++ rest) :
    values.getPath other = (values.getPath path).bind (within rest) := by
  rw [getPath, joined, get_at_append _ rest values (Path.segments_filled path)]
  rfl

theorem get_path_set_same : (values.setPath path value).getPath path = some value := by
  rw [getPath, set_path_at, get_set_same _ value values (Path.segments_filled path)]

theorem get_path_set_below (joined : Path.segments other = Path.segments path ++ rest) :
    (values.setPath path value).getPath other = within rest value := by
  rw [get_path_further path other rest _ joined, get_path_set_same, Option.bind_some]

theorem get_path_set_above (joined : Path.segments path = Path.segments other ++ rest)
    (filled : rest ≠ []) :
    (values.setPath path value).getPath other =
      some (.group (setAt rest value (entriesOf (values.getPath other)))) := by
  rw [getPath, set_path_at, joined,
    get_set_above _ rest value values (Path.segments_filled other) filled]
  rfl

theorem get_path_set_apart (apart : Path.Incomparable path other) :
    (values.setPath path value).getPath other = values.getPath other := by
  rw [getPath, set_path_at, get_set_apart _ _ value values apart.1 apart.2]
  rfl

theorem set_path_ordered (held : value.Ordered) (ordered : values.Ordered) :
    (values.setPath path value).Ordered := by
  rw [set_path_at]
  exact set_at_ordered _ value values held ordered

end Paths

end FormValues

namespace FormState

variable (path other : String) (value : FormValue)

/-- A write leaves alone what it neither leads to nor starts from. -/
theorem source_set_apart (state : FormState) (apart : Path.Incomparable path other) :
    (state.setValue path value).values.source other = state.values.source other := by
  unfold setValue
  split
  · rfl
  · exact FormValues.get_path_set_apart path other value state.values apart

-- The write may be skipped in one state and not in the other; the path holds the same afterwards.
theorem source_set_alike (left right : FormState)
    (same : left.values.source other = right.values.source other) :
    (left.setValue path value).values.source other =
      (right.setValue path value).values.source other := by
  by_cases ahead : Path.Leads path other
  · obtain ⟨rest, joined⟩ := ahead
    have written : ∀ state : FormState,
        (state.setValue path value).values.source other = FormValues.within rest value := by
      intro state
      unfold setValue
      split
      · rename_i held
        rw [FormValues.source, FormValues.get_path_further path other rest _ joined.symm, held,
          Option.bind_some]
      · exact FormValues.get_path_set_below path other rest value state.values joined.symm
    rw [written left, written right]
  · by_cases behind : Path.Leads other path
    · obtain ⟨rest, joined⟩ := behind
      have filled : rest ≠ [] := by
        rintro rfl
        exact ahead ⟨[], by simpa using joined.symm⟩
      have held : left.values.getPath path = right.values.getPath path := by
        rw [FormValues.get_path_further other path rest _ joined.symm,
          FormValues.get_path_further other path rest _ joined.symm]
        exact congrArg (·.bind (FormValues.within rest)) same
      unfold setValue
      rw [held]
      split
      · exact same
      · simp only [FormValues.source] at same ⊢
        rw [FormValues.get_path_set_above path other rest value _ joined.symm filled,
          FormValues.get_path_set_above path other rest value _ joined.symm filled, same]
    · rw [source_set_apart path other value left ⟨ahead, behind⟩,
        source_set_apart path other value right ⟨ahead, behind⟩]
      exact same

theorem set_value_ordered (state : FormState) (held : value.Ordered)
    (ordered : state.values.Ordered) : (state.setValue path value).values.Ordered := by
  unfold setValue
  split
  · exact ordered
  · exact FormValues.set_path_ordered path value state.values held ordered

end FormState

end FormEngine
