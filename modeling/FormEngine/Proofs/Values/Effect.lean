import FormEngine.Proofs.Values.Writes

/-!
Writes as changes of a whole tree. A write to a path settles what every other path holds: paths
below it select from the written value, paths above it hold groups, and all others hold what they
held. A value that is there already can be written again without a trace, and of two writes that do
not meet either may come first.

Groups are kept in key order, so trees that hold the same are equal.
-/

namespace FormEngine.FormValues

section Entries

/-- What the entry under the first segment becomes, given what it was. -/
def entryAfter (rest : List String) (value : FormValue) (held : Option FormValue) : FormValue :=
  match rest with
  | [] => value
  | segment :: rest => .group (setAt (segment :: rest) value (entriesOf held))

theorem set_at_entry (id : String) (rest : List String) (value : FormValue) (values : FormValues) :
    setAt (id :: rest) value values =
      Keyed.insert id (entryAfter rest value (Keyed.find? id values)) values := by
  cases rest with
  | nil => rfl
  | cons next others => exact set_at_below id _ (by simp) value values

variable (values : FormValues) (sorted : Keyed.Sorted values)

include sorted

-- The second write finds the group that the first one has left.
theorem set_at_twice (id : String) (rest others : List String) (deeper : rest ≠ [])
    (lower : others ≠ []) (first second : FormValue) :
    setAt (id :: rest) first (setAt (id :: others) second values) =
      Keyed.insert id
        (.group (setAt rest first (setAt others second (entriesOf (Keyed.find? id values)))))
        values := by
  rw [set_at_below id rest deeper, set_at_below id others lower, Keyed.find_insert, if_pos rfl,
    Keyed.insert_again id _ values _ sorted]
  rfl

theorem set_at_beside (left right : String) (different : left ≠ right) (rest others : List String)
    (first second : FormValue) :
    setAt (left :: rest) first (setAt (right :: others) second values) =
      setAt (right :: others) second (setAt (left :: rest) first values) := by
  simp only [set_at_entry, Keyed.find_insert, if_neg different, if_neg (Ne.symm different)]
  exact Keyed.insert_swap left _ values right _ sorted (Ne.symm different)

end Entries

section Trees

variable (values : FormValues) (ordered : values.Ordered)

include ordered

theorem set_at_found (path : List String) (value : FormValue)
    (found : getAt path values = some value) : setAt path value values = values := by
  induction path generalizing values with
  | nil => simp [getAt] at found
  | cons id rest ih =>
      cases rest with
      | nil => exact Keyed.insert_found id value values ordered.1 found
      | cons next others =>
          rw [get_at_below id _ (by simp)] at found
          split at found
          · rename_i entries here
            have inner : Ordered entries := by
              simpa [here, entriesOf] using entries_of_ordered id values ordered
            rw [set_at_below id _ (by simp), here, entriesOf, ih entries inner found]
            exact Keyed.insert_found id _ values ordered.1 here
          · simp at found

theorem set_at_swap (path other : List String) (value held : FormValue) (ahead : ¬ path <+: other)
    (behind : ¬ other <+: path) :
    setAt path value (setAt other held values) = setAt other held (setAt path value values) := by
  induction path generalizing other values with
  | nil => exact absurd List.nil_prefix ahead
  | cons id rest ih =>
      cases other with
      | nil => exact absurd List.nil_prefix behind
      | cons first others =>
          by_cases same : id = first
          · subst same
            rw [List.cons_prefix_cons] at ahead behind
            have deeper : rest ≠ [] := by
              rintro rfl
              exact ahead ⟨rfl, List.nil_prefix⟩
            have lower : others ≠ [] := by
              rintro rfl
              exact behind ⟨rfl, List.nil_prefix⟩
            have inner := ih _ (entries_of_ordered id values ordered) others
              (fun leads => ahead ⟨rfl, leads⟩) (fun leads => behind ⟨rfl, leads⟩)
            rw [set_at_twice values ordered.1 id rest others deeper lower,
              set_at_twice values ordered.1 id others rest lower deeper, inner]
          · exact set_at_beside values ordered.1 id first same rest others value held

end Trees

section Paths

variable (values : FormValues) (path other : String) (value held : FormValue)

/-- What a tree holds after a write to the path, against what it held before. -/
structure Written (before after : FormValues) : Prop where
  below : ∀ lower rest, Path.segments lower = Path.segments path ++ rest →
    after.getPath lower = within rest value
  above : ∀ upper rest, rest ≠ [] → Path.segments path = Path.segments upper ++ rest →
    ∃ entries, after.getPath upper = some (.group entries)
  apart : ∀ beside, Path.Incomparable path beside → after.getPath beside = before.getPath beside

theorem set_path_written : Written path value values (values.setPath path value) := by
  constructor
  case below =>
    intro lower rest joined
    exact get_path_set_below path lower rest value values joined
  case above =>
    intro upper rest filled joined
    exact ⟨_, get_path_set_above path upper rest value values joined filled⟩
  case apart =>
    intro beside apart
    exact get_path_set_apart path beside value values apart

theorem set_path_found (ordered : values.Ordered) (found : values.getPath path = some value) :
    values.setPath path value = values := by
  rw [set_path_at]
  exact set_at_found values ordered _ value found

theorem set_path_swap (ordered : values.Ordered) (apart : Path.Incomparable path other) :
    (values.setPath other held).setPath path value =
      (values.setPath path value).setPath other held := by
  simp only [set_path_at]
  exact set_at_swap values ordered _ _ value held apart.1 apart.2

/-- A write to a path has its effect at, above and below the path and none elsewhere; it has none at
all where the path holds the value already, and writes that do not meet may change places. -/
theorem set_path_exact (ordered : values.Ordered) :
    Written path value values (values.setPath path value) ∧
      (values.getPath path = some value → values.setPath path value = values) ∧
      (∀ other held, Path.Incomparable path other →
        (values.setPath other held).setPath path value =
          (values.setPath path value).setPath other held) := by
  refine ⟨?_, ?_, ?_⟩
  · exact set_path_written values path value
  · exact set_path_found values path value ordered
  · intro other held apart
    exact set_path_swap values path other value held ordered apart

/-- Two groups without a name in one another, and a text where a group is needed. -/
def unnamedValues : FormValues :=
  [("", .group [("", .text "x")]), ("a", .text "y")]

theorem unnamed_written :
    let after := unnamedValues.setPath "a.." (.group [("b", .flag true)])
    after.getPath "a...b" = some (.flag true) ∧
      (∃ entries, after.getPath "a." = some (.group entries)) ∧
      after.getPath "." = some (.text "x") ∧
      after.setPath "." (.text "z") =
        (unnamedValues.setPath "." (.text "z")).setPath "a.." (.group [("b", .flag true)]) := by
  have inner : FormValue.OrderedEntries unnamedValues := by
    simp [unnamedValues, FormValue.OrderedEntries, FormValue.Ordered, Keyed.Sorted]
  have ordered : unnamedValues.Ordered := ⟨by decide, inner⟩
  have segments : Path.segments "a.." = ["a", "", ""] ∧ Path.segments "a...b" = ["a", "", "", "b"] ∧
      Path.segments "a." = ["a", ""] ∧ Path.segments "." = ["", ""] := by decide
  obtain ⟨path, lower, upper, beside⟩ := segments
  have apart : Path.Incomparable "a.." "." := by
    simp [Path.Incomparable, Path.Leads, path, beside]
  obtain ⟨written, _, swap⟩ :=
    set_path_exact unnamedValues "a.." (.group [("b", .flag true)]) ordered
  refine ⟨?_, ?_, ?_, ?_⟩
  · exact written.below "a...b" ["b"] (by rw [lower, path]; rfl)
  · exact written.above "a." [""] (by simp) (by rw [upper, path]; rfl)
  · rw [written.apart "." apart]
    decide
  · exact (swap "." (.text "z") apart).symm

end Paths

end FormEngine.FormValues
