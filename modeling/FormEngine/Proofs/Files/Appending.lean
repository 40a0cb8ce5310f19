import FormEngine.Proofs.Files.Path
import FormEngine.Proofs.Files.Tree

/-!
Files that are written at the end. Putting a file into its directory leaves every directory where it
was, so the path of the file leads to the same place afterwards; what was written is read there, and
what was added stands behind what was held.
-/

namespace FormEngine

namespace FileNode

variable (added : FileNode)

/-- A directory above or beside the place stays one. -/
theorem directory_put (place names : List String) (node : FileNode)
    (entries : List (String × FileNode)) (here : find? names node = some (.directory entries))
    (aside : ¬ place <+: names) :
    ∃ changed, find? names (put added place node) = some (.directory changed) := by
  fun_induction put added place node generalizing names with
  | case1 node => exact absurd List.nil_prefix aside
  | case2 name held =>
      cases names with
      | nil => exact ⟨_, rfl⟩
      | cons other rest =>
          have different : other ≠ name := by
            rintro rfl
            exact aside ⟨rest, rfl⟩
          rw [find?] at here
          rw [find?, Keyed.find_insert, if_neg different]
          exact ⟨entries, here⟩
  | case3 name next more held inner found ih =>
      cases names with
      | nil => exact ⟨_, rfl⟩
      | cons other rest =>
          rw [find?] at here
          rw [find?, Keyed.find_insert]
          by_cases same : other = name
          · subst same
            rw [found] at here
            rw [if_pos rfl]
            exact ih rest here fun within => aside (List.cons_prefix_cons.mpr ⟨rfl, within⟩)
          · rw [if_neg same]
            exact ⟨entries, here⟩
  | case4 => exact ⟨entries, here⟩
  | case5 => exact ⟨entries, here⟩

theorem directory_through (place below : List String) (node : FileNode)
    (entries : List (String × FileNode))
    (here : find? (place ++ below) node = some (.directory entries)) :
    ∃ held, find? place node = some (.directory held) := by
  fun_induction find? place node with
  | case1 node =>
      cases node with
      | file content => cases below <;> cases here
      | directory held => exact ⟨held, rfl⟩
  | case2 name rest held inner found ih =>
      rw [List.cons_append, find?, found] at here
      exact ih here
  | case3 name rest held absent =>
      rw [List.cons_append, find?, absent] at here
      cases here
  | case4 name rest content => cases here

end FileNode

/-- A text that is not empty splits into more than one empty piece. -/
theorem Text.split_chars_counts (separator : Char) {chars : List Char} {first : List Char}
    {rest : List (List Char)} (filled : chars ≠ [])
    (split : splitChars separator chars = first :: rest) : first ≠ [] ∨ rest ≠ [] := by
  cases chars with
  | nil => exact absurd rfl filled
  | cons char others =>
      by_cases same : char = separator
      · rw [splitChars, if_pos same] at split
        rw [← (List.cons.inj split).2]
        exact Or.inr (split_chars_filled separator others)
      · rw [splitChars, if_neg same] at split
        split at split <;> rw [← (List.cons.inj split).1] <;> simp

namespace FilePath

theorem first_step_taken (piece : List Char) (rest : List (List Char))
    (counts : piece ≠ [] ∨ rest ≠ []) : ∃ step, firstStep? piece rest = some step := by
  unfold firstStep? laterStep?
  by_cases empty : piece = []
  · have more : rest ≠ [] := counts.resolve_left fun filled => filled empty
    simp [empty, more]
  · by_cases stays : piece = ['.']
    · simp [stays]
    · by_cases up : piece = ['.', '.']
      · simp [up]
      · simp [empty, stays, up]

/-- Only the empty path takes no step at all. -/
theorem steps_filled (path : String) (filled : path.isEmpty = false) : steps path ≠ [] := by
  have chars : path.toList ≠ [] := by
    intro empty
    obtain rfl : path = "" := String.toList_inj.mp empty
    cases filled
  cases pieces : Text.splitChars '/' path.toList with
  | nil => exact absurd pieces (Text.split_chars_filled '/' path.toList)
  | cons first rest =>
      have counts : first ≠ [] ∨ rest ≠ [] := Text.split_chars_counts '/' chars pieces
      obtain ⟨step, taken⟩ := first_step_taken first rest counts
      simp [steps, pieces, taken]

end FilePath

namespace FileTree

section Paths

variable (tree : FileTree)

theorem directory_iff (place : Place) :
    tree.isDirectory place = true ↔ ∃ entries, tree.find? place = some (.directory entries) := by
  unfold isDirectory
  constructor
  · intro here
    split at here
    · rename_i entries found
      exact ⟨entries, found⟩
    · cases here
  · rintro ⟨entries, found⟩
    rw [found]

theorem directory_through (place below : Place) (here : tree.isDirectory (place ++ below) = true) :
    tree.isDirectory place = true := by
  obtain ⟨entries, found⟩ := (tree.directory_iff _).mp here
  exact (tree.directory_iff place).mpr
    (FileNode.directory_through place below tree.root entries found)

variable (reached : Place) (apart : tree.isDirectory reached = false)

include apart

theorem directory_kept (node : FileNode) (place : Place) (here : tree.isDirectory place = true) :
    (tree.put reached node).isDirectory place = true := by
  have aside : ¬ reached <+: place := by
    rintro ⟨below, rfl⟩
    rw [tree.directory_through reached below here] at apart
    cases apart
  obtain ⟨entries, found⟩ := (tree.directory_iff place).mp here
  exact ((tree.put reached node).directory_iff place).mpr
    (FileNode.directory_put node reached place tree.root entries found aside)

-- Every step of the walk starts in a directory, and those are all there still.
theorem walk_put (node : FileNode) (steps : List FilePath.Step) (place : Place)
    (walked : tree.walk steps place = some reached) :
    (tree.put reached node).walk steps place = some reached := by
  have kept := tree.directory_kept reached apart node
  fun_induction walk tree steps place with
  | case1 place => exact walked
  | case2 rest place here ih =>
      rw [walk, if_pos (kept place here)]
      exact ih walked
  | case3 rest place here ih =>
      rw [walk, if_pos (kept place here)]
      exact ih walked
  | case4 rest place here ih =>
      rw [walk, if_pos (kept place here)]
      exact ih walked
  | case5 rest place here name fits ih =>
      rw [walk, if_pos (kept place here), if_pos fits]
      exact ih walked
  | case6 => cases walked
  | case7 => cases walked

-- Any other last step leads to a directory, which the place is not.
theorem walked_into (steps : List FilePath.Step) (place : Place) (filled : steps ≠ [])
    (walked : tree.walk steps place = some reached) :
    reached = [] ∨ tree.isDirectory reached.dropLast = true := by
  have last : ∀ place, tree.isDirectory place = true → reached ≠ place := by
    rintro place here rfl
    rw [here] at apart
    cases apart
  fun_induction walk tree steps place with
  | case1 place => exact absurd rfl filled
  | case2 rest place here ih =>
      cases rest with
      | nil => exact Or.inl (Option.some.inj walked).symm
      | cons next others => exact ih (by simp) walked
  | case3 rest place here ih =>
      cases rest with
      | nil => exact absurd (Option.some.inj walked).symm (last place here)
      | cons next others => exact ih (by simp) walked
  | case4 rest place here ih =>
      cases rest with
      | nil =>
          have above : tree.isDirectory place.dropLast = true := by
            rw [← List.take_append_drop (place.length - 1) place] at here
            rw [List.dropLast_eq_take]
            exact tree.directory_through _ _ here
          exact absurd (Option.some.inj walked).symm (last place.dropLast above)
      | cons next others => exact ih (by simp) walked
  | case5 rest place here name fits ih =>
      cases rest with
      | nil =>
          rw [← Option.some.inj walked, List.dropLast_concat]
          exact Or.inr here
      | cons next others => exact ih (by simp) walked
  | case6 => cases walked
  | case7 => cases walked

end Paths

section Contents

variable (tree : FileTree) (path : String)

theorem resolved_iff (place : Place) :
    tree.resolve? path = some place ↔
      (path.isEmpty || FilePath.maxBytes ≤ path.utf8ByteSize) = false ∧
        tree.walk (FilePath.steps path) working = some place ∧
        (FilePath.namesDirectory path && !tree.isDirectory place) = false := by
  unfold resolve?
  cases (path.isEmpty || decide (FilePath.maxBytes ≤ path.utf8ByteSize)) with
  | true => simp
  | false =>
      cases tree.walk (FilePath.steps path) working with
      | none => simp
      | some reached =>
          by_cases odd : (FilePath.namesDirectory path && !tree.isDirectory reached) = true
          · simp only [odd, Bool.false_eq_true, ↓reduceIte, reduceCtorEq, Option.some.injEq,
              true_and, false_iff, not_and]
            rintro rfl
            simp [odd]
          · simp only [odd, Bool.false_eq_true, ↓reduceIte, Option.some.injEq, true_and]
            constructor
            · rintro rfl
              exact ⟨rfl, by simpa using odd⟩
            · exact fun found => found.1

/-- The path of a place that is no directory leads there after anything was put there. -/
theorem resolve_put (place : Place) (node : FileNode)
    (resolved : tree.resolve? path = some place) (apart : tree.isDirectory place = false) :
    (tree.put place node).resolve? path = some place := by
  obtain ⟨proper, walked, named⟩ := (tree.resolved_iff path place).mp resolved
  have plain : FilePath.namesDirectory path = false := by simpa [apart] using named
  exact ((tree.put place node).resolved_iff path place).mpr
    ⟨proper, tree.walk_put place apart node _ working walked, by rw [plain, Bool.false_and]⟩

/-- There is a directory for the file that a path leads to. -/
theorem resolved_into (place : Place) (resolved : tree.resolve? path = some place)
    (apart : tree.isDirectory place = false) :
    place = [] ∨ ∃ entries, tree.root.find? place.dropLast = some (.directory entries) := by
  obtain ⟨proper, walked, _⟩ := (tree.resolved_iff path place).mp resolved
  have filled : path.isEmpty = false := (Bool.or_eq_false_iff.mp proper).1
  rcases tree.walked_into place apart _ working
    (FilePath.steps_filled path filled) walked with top | above
  · exact Or.inl top
  · exact Or.inr ((tree.directory_iff _).mp above)

theorem write_read (next : FileTree) (content : ByteArray)
    (written : tree.write? path content = some next) : next.read? path = some content := by
  unfold write? at written
  cases resolved : tree.resolve? path with
  | none => simp [resolved] at written
  | some place =>
      cases apart : tree.isDirectory place with
      | true => simp [resolved, apart] at written
      | false =>
          obtain rfl : tree.put place (.file (.bytes content)) = next := by
            simpa [resolved, apart] using written
          have there := FileNode.find_put (.file (.bytes content)) place tree.root
            (tree.resolved_into path place resolved apart)
          rw [read?, nodeAt?, tree.resolve_put path place _ resolved apart, Option.bind_some,
            find?, put, there]

/-- What was added to a file stands behind what it held, if it held anything. -/
theorem append_read (next : FileTree) (added : ByteArray)
    (appended : tree.append? path added = some next) :
    next.read? path = some ((tree.read? path).getD .empty ++ added) := by
  unfold append? at appended
  split at appended
  · rename_i held found
    rw [tree.write_read path next _ appended]
    simp [read?, found]
  · cases appended
  · rename_i absent
    rw [tree.write_read path next added appended]
    simp [read?, absent]

/-- A file that is there takes whatever is added. -/
theorem append_taken (held added : ByteArray) (here : tree.read? path = some held) :
    ∃ next, tree.append? path added = some next := by
  unfold read? at here
  split at here
  · rename_i content found
    unfold append?
    rw [found]
    dsimp only
    unfold nodeAt? at found
    obtain ⟨place, resolved, node⟩ := Option.bind_eq_some_iff.mp found
    have apart : tree.isDirectory place = false := by
      rw [isDirectory, node]
    exact ⟨tree.put place (.file (.bytes (content ++ added))), by simp [write?, resolved, apart]⟩
  · cases here

end Contents

end FileTree

end FormEngine
