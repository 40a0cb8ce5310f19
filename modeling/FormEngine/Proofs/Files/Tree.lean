import FormEngine.Files.Tree
import FormEngine.Proofs.Keyed

/-!
What files of a tree hold after it was worked on. Only work at a file's own place, or on a directory
above it, can change what it holds, and directories are only made where nothing is.
-/

namespace FormEngine

namespace FileNode

/-- What the file under the names holds, if a file is there. -/
def content? (names : List String) (node : FileNode) : Option FileContent :=
  match node.find? names with
  | some (.file content) => some content
  | _ => none

section Directories

variable (entries changed : List (String × FileNode))

theorem content_entry (name : String) (rest : List String) :
    content? (name :: rest) (.directory entries) =
      (Keyed.find? name entries).bind (content? rest) := by
  unfold content?
  rw [find?]
  cases Keyed.find? name entries <;> rfl

/-- Only the entry that a look-up goes through counts. -/
theorem content_entries (names : List String)
    (same : ∀ name rest, names = name :: rest →
      (Keyed.find? name changed).bind (content? rest) =
        (Keyed.find? name entries).bind (content? rest)) :
    content? names (.directory changed) = content? names (.directory entries) := by
  cases names with
  | nil => rfl
  | cons name rest => rw [content_entry, content_entry, same name rest rfl]

theorem content_replaced (name : String) (inner next : FileNode) (names : List String)
    (held : Keyed.find? name entries = some inner)
    (same : ∀ rest, names = name :: rest → content? rest next = content? rest inner) :
    content? names (.directory (Keyed.insert name next entries)) =
      content? names (.directory entries) := by
  apply content_entries
  intro other rest parts
  rw [Keyed.find_insert]
  by_cases here : other = name
  · subst here
    simp [held, same rest parts]
  · rw [if_neg here]

end Directories

variable (added : FileNode)

theorem content_put (place names : List String) (node : FileNode) (aside : ¬ place <+: names) :
    content? names (put added place node) = content? names node := by
  fun_induction put added place node generalizing names with
  | case1 node => exact absurd List.nil_prefix aside
  | case2 name entries =>
      apply content_entries
      intro other rest parts
      have different : other ≠ name := by
        rintro rfl
        exact aside ⟨rest, parts.symm⟩
      rw [Keyed.find_insert, if_neg different]
  | case3 name next more entries inner held ih =>
      apply content_replaced entries name inner _ names held
      rintro rest rfl
      exact ih rest fun within => aside (List.cons_prefix_cons.mpr ⟨rfl, within⟩)
  | case4 => rfl
  | case5 => rfl

theorem content_remove (place names : List String) (node : FileNode) (aside : ¬ place <+: names) :
    content? names (remove place node) = content? names node := by
  fun_induction remove place node generalizing names with
  | case1 node => exact absurd List.nil_prefix aside
  | case2 name entries =>
      apply content_entries
      intro other rest parts
      have different : other ≠ name := by
        rintro rfl
        exact aside ⟨rest, parts.symm⟩
      rw [Keyed.find_erase_other name entries other different]
  | case3 name next more entries inner held ih =>
      apply content_replaced entries name inner _ names held
      rintro rest rfl
      exact ih rest fun within => aside (List.cons_prefix_cons.mpr ⟨rfl, within⟩)
  | case4 => rfl
  | case5 => rfl

theorem content_put_directory (place names : List String) (node : FileNode)
    (free : find? place node = none) :
    content? names (put (.directory []) place node) = content? names node := by
  fun_induction put (.directory []) place node generalizing names with
  | case1 node => simp [find?] at free
  | case2 name entries =>
      apply content_entries
      intro other rest parts
      rw [Keyed.find_insert]
      by_cases here : other = name
      · subst here
        have absent : Keyed.find? other entries = none := by
          cases held : Keyed.find? other entries with
          | none => rfl
          | some inner => simp [find?, held] at free
        have empty : content? rest (.directory []) = none := by cases rest <;> rfl
        simp [absent, empty]
      · rw [if_neg here]
  | case3 name next more entries inner held ih =>
      apply content_replaced entries name inner _ names held
      rintro rest rfl
      apply ih
      rw [find?, held] at free
      exact free
  | case4 => rfl
  | case5 => rfl

/-- What is found below the root is found in a directory. -/
theorem directory_above (place : List String) (node found : FileNode)
    (reached : find? place node = some found) :
    place = [] ∨ ∃ entries, find? place.dropLast node = some (.directory entries) := by
  fun_induction find? place node with
  | case1 node => exact Or.inl rfl
  | case2 name rest entries inner held ih =>
      rcases ih reached with rfl | ⟨above, within⟩
      · exact Or.inr ⟨entries, rfl⟩
      · cases rest with
        | nil => exact Or.inr ⟨entries, rfl⟩
        | cons next more =>
            rw [List.dropLast_cons_cons, find?, held]
            exact Or.inr ⟨above, within⟩
  | case3 name rest entries absent => cases reached
  | case4 name rest content => cases reached

theorem find_put (place : List String) (node : FileNode)
    (reached : place = [] ∨ ∃ entries, find? place.dropLast node = some (.directory entries)) :
    find? place (put added place node) = some added := by
  fun_induction put added place node with
  | case1 node => rfl
  | case2 name entries => simp [find?, Keyed.find_insert]
  | case3 name next more entries inner held ih =>
      rw [find?, Keyed.find_insert, if_pos rfl]
      apply ih
      rcases reached with absent | ⟨above, found⟩
      · cases absent
      · rw [List.dropLast_cons_cons, find?, held] at found
        exact Or.inr ⟨above, found⟩
  | case4 name next more entries absent =>
      rcases reached with nothing | ⟨above, found⟩
      · cases nothing
      · simp [find?, absent] at found
  | case5 name rest content =>
      rcases reached with nothing | ⟨above, found⟩
      · cases nothing
      · cases rest <;> simp [find?] at found

theorem content_put_again (place : List String) (node found : FileNode) (content : FileContent)
    (reached : find? place node = some found) :
    content? place (put (.file content) place node) = some content := by
  rw [content?, find_put _ place node (directory_above place node found reached)]

end FileNode

namespace FileTree

variable (tree : FileTree)

theorem content_create_along (steps : List FilePath.Step) (place names : Place) :
    (tree.createAlong steps place).1.root.content? names = tree.root.content? names := by
  fun_induction createAlong tree steps place with
  | case1 tree place => rfl
  | case2 tree rest place ih => exact ih
  | case3 tree rest place ih => exact ih
  | case4 tree rest place ih => exact ih
  | case5 tree rest place name entries found ih => exact ih
  | case6 tree rest place name content found => rfl
  | case7 tree rest place name free fits ih =>
      exact ih.trans (FileNode.content_put_directory _ names tree.root free)
  | case8 tree rest place name free unfit => rfl

theorem content_create_directories (steps : List FilePath.Step) (names : Place) :
    (tree.createDirectories steps).1.root.content? names = tree.root.content? names := by
  unfold createDirectories
  split
  · exact content_create_along tree steps working names
  · rfl

/-- Where steps lead, whatever is there. -/
def destination : List FilePath.Step → Place → Place
  | [], place => place
  | .root :: rest, _ => destination rest []
  | .here :: rest, place => destination rest place
  | .up :: rest, place => destination rest place.dropLast
  | .name name :: rest, place => destination rest (place ++ [name])

theorem walked_names_destination (steps : List FilePath.Step) (place reached : Place)
    (walked : tree.walkNames steps place = some reached) : reached = destination steps place := by
  fun_induction walkNames tree steps place with
  | case1 place => exact (Option.some.inj walked).symm
  | case2 place rest ih => exact ih walked
  | case3 place rest ih => exact ih walked
  | case4 place rest ih => exact ih walked
  | case5 place rest name fits ih => exact ih walked
  | case6 place rest name unfit => cases walked

end FileTree

end FormEngine
