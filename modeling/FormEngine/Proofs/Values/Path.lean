import FormEngine.Values.Basic

/-!
Dotted paths and the ids they are made of. A path that is built from ids without dots splits back
into those ids, so looking a path up means following its ids one after the other.
-/

namespace FormEngine

namespace Text

theorem split_chars_whole (separator : Char) (chars : List Char) (absent : separator ∉ chars) :
    splitChars separator chars = [chars] := by
  induction chars with
  | nil => rfl
  | cons char rest ih =>
      have different : char ≠ separator := fun same => absent (by simp [same])
      have later := ih fun present => absent (List.mem_cons_of_mem _ present)
      simp [splitChars, different, later]

theorem split_chars_filled (separator : Char) (chars : List Char) :
    splitChars separator chars ≠ [] := by
  cases chars with
  | nil => simp [splitChars]
  | cons char rest =>
      simp only [splitChars]
      split
      · simp
      · split <;> simp

theorem split_chars_joined (separator : Char) (front back : List Char) :
    splitChars separator (front ++ separator :: back) =
      splitChars separator front ++ splitChars separator back := by
  induction front with
  | nil => simp [splitChars]
  | cons char rest ih =>
      by_cases same : char = separator
      · simp [splitChars, same, ih]
      · cases pieces : splitChars separator rest with
        | nil => exact absurd pieces (split_chars_filled separator rest)
        | cons piece others => simp [splitChars, same, ih, pieces]

/-- A split at the last separator alone takes off the last piece. -/
theorem split_chars_by_last (separator : Char) (chars : List Char) :
    splitChars separator chars =
      match splitLast? separator chars with
      | some (front, back) => splitChars separator front ++ [back]
      | none => [chars] := by
  induction chars with
  | nil => rfl
  | cons char rest ih =>
      cases last : splitLast? separator rest with
      | none =>
          have whole : splitChars separator rest = [rest] := by simpa [last] using ih
          by_cases same : char = separator <;> simp [splitChars, splitLast?, last, same, whole]
      | some ends =>
          obtain ⟨front, back⟩ := ends
          have parted : splitChars separator rest = splitChars separator front ++ [back] := by
            simpa [last] using ih
          by_cases same : char = separator
          · simp [splitChars, splitLast?, last, same, parted]
          · cases pieces : splitChars separator front with
            | nil => exact absurd pieces (split_chars_filled separator front)
            | cons piece others => simp [splitChars, splitLast?, last, same, parted, pieces]

end Text

namespace Path

/-- What an id has to be for paths to split where ids meet. -/
def IsSegment (id : String) : Prop := id ≠ "" ∧ '.' ∉ id.toList

/-- The path that leads through the ids from a parent path on. -/
def through (parent : String) (ids : List String) : String := ids.foldl child parent

theorem segments_filled (path : String) : segments path ≠ [] := by
  simp [segments, Text.split_chars_filled]

theorem segments_id (id : String) (segment : IsSegment id) : segments id = [id] := by
  simp [segments, Text.split_chars_whole '.' id.toList segment.2]

/-- The segments before the last dot and the one behind it are all segments. -/
theorem segments_by_last (path : String) :
    segments path =
      match splitLast? path with
      | some (parents, leaf) => segments parents ++ [leaf]
      | none => [path] := by
  have pieces := Text.split_chars_by_last '.' path.toList
  cases last : Text.splitLast? '.' path.toList with
  | none => simp [segments, splitLast?, last, pieces]
  | some ends => simp [segments, splitLast?, last, pieces]

theorem segments_child (parent id : String) (segment : IsSegment id) :
    segments (child parent id) =
      if parent = "" then [id] else segments parent ++ [id] := by
  by_cases root : parent = ""
  · simp [child, root, segments_id id segment]
  · have joined : (parent ++ "." ++ id).toList = parent.toList ++ '.' :: id.toList := by simp
    simp [child, root, segments, joined, Text.split_chars_joined,
      Text.split_chars_whole '.' id.toList segment.2]

theorem child_not_empty (parent id : String) (segment : IsSegment id) : child parent id ≠ "" := by
  by_cases root : parent = ""
  · simpa [child, root] using segment.1
  · simp [child, root]

theorem segments_through (parent : String) (ids : List String) (below : parent ≠ "")
    (each : ∀ id ∈ ids, IsSegment id) :
    segments (through parent ids) = segments parent ++ ids := by
  induction ids generalizing parent with
  | nil => simp [through]
  | cons id rest ih =>
      obtain ⟨segment, others⟩ := List.forall_mem_cons.mp each
      have later := ih (child parent id) (child_not_empty parent id segment) others
      simpa [through, segments_child parent id segment, below] using later

theorem segments_from_root (ids : List String) (filled : ids ≠ [])
    (each : ∀ id ∈ ids, IsSegment id) : segments (through "" ids) = ids := by
  cases ids with
  | nil => exact absurd rfl filled
  | cons id rest =>
      obtain ⟨segment, others⟩ := List.forall_mem_cons.mp each
      have named : child "" id = id := rfl
      have later := segments_through id rest segment.1 others
      simpa [through, named, segments_id id segment] using later

end Path

namespace FormValues

/-- Reading and writing go by the same segments. -/
theorem set_path_at (path : String) (value : FormValue) (values : FormValues) :
    values.setPath path value = setAt (Path.segments path) value values := by
  rw [setPath, Path.segments_by_last]
  cases Path.splitLast? path with
  | none => rfl
  | some ends => rfl

theorem get_path_through (ids : List String) (values : FormValues) (filled : ids ≠ [])
    (each : ∀ id ∈ ids, Path.IsSegment id) :
    values.getPath (Path.through "" ids) = getAt ids values := by
  rw [getPath, Path.segments_from_root ids filled each]

@[simp]
theorem get_at_empty (ids : List String) : getAt ids [] = none := by
  cases ids with
  | nil => rfl
  | cons id rest => cases rest <;> rfl

/-- Going on below an id needs a group there. -/
theorem get_at_below (id : String) (rest : List String) (filled : rest ≠ [])
    (values : FormValues) :
    getAt (id :: rest) values =
      match Keyed.find? id values with
      | some (.group entries) => getAt rest entries
      | _ => none := by
  cases rest with
  | nil => exact absurd rfl filled
  | cons next others => rfl

theorem get_at_group (front rest : List String) (values : FormValues) (entries : FormValues)
    (filled : rest ≠ []) (found : getAt front values = some (.group entries)) :
    getAt (front ++ rest) values = getAt rest entries := by
  induction front generalizing values with
  | nil => simp [getAt] at found
  | cons id others ih =>
      cases others with
      | nil =>
          have here : Keyed.find? id values = some (.group entries) := found
          simp [get_at_below id rest filled, here]
      | cons next others =>
          rw [get_at_below id _ (by simp)] at found
          rw [List.cons_append, get_at_below id _ (by simp)]
          split at found
          · rename_i inner here
            simpa [here] using ih inner found
          · simp at found

/-- What has something below it is a group itself. -/
theorem get_at_prefix (front rest : List String) (values : FormValues) (value : FormValue)
    (filled : rest ≠ []) (started : front ≠ [])
    (found : getAt (front ++ rest) values = some value) :
    ∃ entries, getAt front values = some (.group entries) := by
  induction front generalizing values with
  | nil => exact absurd rfl started
  | cons id others ih =>
      rw [List.cons_append, get_at_below id _ (by simp [filled])] at found
      split at found
      · rename_i inner here
        cases others with
        | nil => exact ⟨inner, here⟩
        | cons next others =>
            obtain ⟨entries, deeper⟩ := ih inner (by simp) found
            exact ⟨entries, by simpa [get_at_below id _ (List.cons_ne_nil next others), here]⟩
      · simp at found

end FormValues

end FormEngine
