import FormEngine.Proofs.Files.Tree
import FormEngine.Store.Durable

/-!
What opening a store does to the database it is opened on. The settings may be taken or refused, the
file may be new or in use, its journal may change and files may come and go beside it: the table
stays as it is, and only where no database was does an empty one begin.
-/

namespace FormEngine.DurableStore

abbrev Rows := List (String × Database.Row)

/-- The table of the database at a place, which may be missing from it. Nothing where no database
is. -/
def tableAt (place : Place) (tree : FileTree) : Option (Option Rows) :=
  match tree.root.content? place with
  | some (.database database) => some database.rows?
  | _ => none

section Databases

variable (place : Place) (tree : FileTree)

theorem database_of_content :
    databaseAt place tree =
      match tree.root.content? place with
      | some (.database database) => .ok (some database)
      | some (.bytes content) => if content.isEmpty then .ok none else .error .notDatabase
      | none => .error .unreachable := by
  unfold databaseAt FileTree.find? FileNode.content?
  cases tree.root.find? place with
  | none => rfl
  | some node =>
      cases node with
      | directory entries => rfl
      | file content => cases content <;> rfl

theorem table_of_database (held : Option Database) (read : databaseAt place tree = .ok held) :
    tableAt place tree = held.map Database.rows? := by
  rw [database_of_content] at read
  unfold tableAt
  generalize tree.root.content? place = content at read ⊢
  cases content with
  | none => cases read
  | some content =>
      cases content with
      | database database =>
          cases read
          rfl
      | bytes written =>
          dsimp only at read ⊢
          split at read <;> cases read
          rfl

theorem database_of_table (rows : Option Rows) (there : tableAt place tree = some rows) :
    ∃ database, databaseAt place tree = .ok (some database) ∧ database.rows? = rows := by
  rw [database_of_content]
  unfold tableAt at there
  generalize tree.root.content? place = content at there ⊢
  split at there
  · exact ⟨_, rfl, Option.some.inj there⟩
  · cases there

theorem database_put (held : Option Database) (database : Database)
    (read : databaseAt place tree = .ok held) :
    databaseAt place (tree.put place (.file (.database database))) = .ok (some database) := by
  have found : ∃ node, tree.root.find? place = some node := by
    unfold databaseAt FileTree.find? at read
    split at read <;> first | exact ⟨_, ‹_›⟩ | cases read
  obtain ⟨node, found⟩ := found
  rw [database_of_content, FileTree.put, FileNode.content_put_again place tree.root node _ found]

end Databases

section Companions

variable (place : Place) (named : place ≠ [])

include named

theorem companion_aside (ending : String) (longer : ending ≠ "") :
    ¬ companion ending place <+: place := by
  obtain ⟨above, name, rfl⟩ := (List.eq_nil_or_concat place).resolve_left named
  intro within
  unfold companion at within
  simp only [List.concat_eq_append, List.getLast?_append, List.getLast?_singleton, Option.some_or,
    List.dropLast_concat] at within
  have same := within.eq_of_length (by simp)
  have tails := List.append_cancel_left same
  exact longer (String.append_eq_left_iff.mp (List.singleton_inj.mp tails))

variable (location : Location) (tree : FileTree)

theorem content_put_companion (ending : String) (longer : ending ≠ "") (node : FileNode) :
    (tree.put (companion ending place) node).root.content? place = tree.root.content? place :=
  FileNode.content_put node _ place tree.root (companion_aside place named ending longer)

theorem content_remove_companion (ending : String) (longer : ending ≠ "") :
    (tree.remove (companion ending place)).root.content? place = tree.root.content? place :=
  FileNode.content_remove _ place tree.root (companion_aside place named ending longer)

theorem content_lay_log (keepsIndex : Bool) :
    (layLog keepsIndex place tree).root.content? place = tree.root.content? place := by
  have logged := content_put_companion place named tree "-wal" (by decide) companionContent
  unfold layLog
  cases keepsIndex with
  | false => exact logged
  | true => exact (content_put_companion place named _ "-shm" (by decide) _).trans logged

theorem content_clear_log :
    (clearLog place tree).root.content? place = tree.root.content? place :=
  (content_remove_companion place named _ "-shm" (by decide)).trans
    (content_remove_companion place named tree "-wal" (by decide))

theorem content_settle_journal (held : Option Database) :
    (settleJournal location place held tree).root.content? place = tree.root.content? place := by
  unfold settleJournal
  split
  · split
    · exact content_remove_companion place named tree "-journal" (by decide)
    · rfl
  · rfl

theorem content_leave :
    (leave location place tree).root.content? place = tree.root.content? place := by
  have cleared := content_clear_log place named tree
  have laid := content_lay_log place named tree location.keepsIndex
  unfold leave
  dsimp only
  repeat' split
  all_goals first | rfl | exact cleared | exact laid

end Companions

section Reaching

variable (location : Location) (name path : String) (tree : FileTree)

theorem read_database (place : Place) (held : Option Database)
    (taken : read location place tree = .ok held) : databaseAt place tree = .ok held := by
  unfold read at taken
  split at taken
  · exact taken
  · split at taken
    · cases taken
    · split at taken
      · split at taken
        · cases taken
        · rename_i database there _
          exact there.trans taken
      · exact taken

theorem content_free (place : Place) (free : tree.find? place = none) :
    tree.root.content? place = none := by
  unfold FileTree.find? at free
  rw [FileNode.content?, free]

/-- A missing file is begun with nothing in it. -/
theorem content_begun (place : Place) (room : tree.isDirectory place.dropLast = true) :
    (tree.put place (.file (.bytes .empty))).root.content? place = some (.bytes .empty) := by
  have above : ∃ entries, tree.root.find? place.dropLast = some (.directory entries) := by
    unfold FileTree.isDirectory FileTree.find? at room
    split at room
    · exact ⟨_, ‹_›⟩
    · cases room
  have begun := FileNode.find_put (.file (.bytes .empty)) place tree.root (Or.inr above)
  rw [FileTree.put, FileNode.content?, begun]

theorem reached_place (place : Place) (next : FileTree)
    (reached : reach location name path tree = .ok (place, next)) :
    place = FileTree.destination (FilePath.steps path) FileTree.working ∧ place ≠ [] ∧
      tableAt place next = tableAt place tree := by
  unfold reach at reached
  split at reached
  · cases reached
  · cases reached
  · rename_i goal named walked
    have leads := FileTree.walked_names_destination tree _ _ _ walked
    split at reached
    · cases reached
    · split at reached
      · cases reached
        exact ⟨leads, named, rfl⟩
      · split at reached <;> cases reached
      · rename_i free
        split at reached
        · rename_i room
          cases reached
          have begun := content_begun tree place (Bool.and_eq_true_iff.mp room).2
          have before := content_free tree place free
          exact ⟨leads, named, by rw [tableAt, tableAt, begun, before]⟩
        · cases reached

/-- Getting at a database leaves its table as it is, also when the database cannot be used. -/
theorem connect_table :
    tableAt (FileTree.destination (FilePath.steps path) FileTree.working)
        (connect location name path tree).1 =
      tableAt (FileTree.destination (FilePath.steps path) FileTree.working) tree := by
  unfold connect
  split
  · rfl
  · rename_i place next reached
    obtain ⟨rfl, named, same⟩ := reached_place location name path tree place next reached
    split
    · exact same
    · rename_i held taken
      rw [← same, tableAt, content_settle_journal _ named location next held, tableAt]

theorem connected_place (place : Place) (held : Option Database) (next : FileTree)
    (connected : connect location name path tree = (next, .ok (place, held))) :
    place = FileTree.destination (FilePath.steps path) FileTree.working ∧ place ≠ [] ∧
      databaseAt place next = .ok held := by
  unfold connect at connected
  split at connected
  · cases connected
  · rename_i goal between reached
    obtain ⟨leads, named, _⟩ := reached_place location name path tree goal between reached
    split at connected
    · cases connected
    · rename_i found taken
      cases connected
      have there := read_database location between place held taken
      rw [database_of_content] at there ⊢
      rw [content_settle_journal place named location between held]
      exact ⟨leads, named, there⟩

end Reaching

section Opening

variable (settings : Settings) (location : Location) (path : String) (tree : FileTree)

/-- What an opening does at the place that it is on: the table stays, or an empty one begins. A store
that was opened holds the place. -/
structure Opened (place : Place) (location : Location) (tree next : FileTree)
    (outcome : Except Error Home) : Prop where
  kept : tableAt place next = tableAt place tree ∨
    tableAt place tree = none ∧ tableAt place next = some (some [])
  held : ∀ home, outcome = .ok home → (tableAt place next).isSome ∧ place ≠ [] ∧
    ∃ hold, home = .file hold ∧ hold.place = place ∧ hold.location = location

theorem content_table (place : Place) (next : FileTree)
    (same : next.root.content? place = tree.root.content? place) :
    tableAt place next = tableAt place tree := by
  rw [tableAt, same, tableAt]

theorem set_up_rows (fits : Bool) (journal : JournalMode) (held : Option Database)
    (database : Database) (made : setUp location fits journal held = .ok database) :
    database.rows? = (held.map Database.rows?).getD (some []) := by
  unfold setUp at made
  split at made
  · split at made
    · cases made
    · split at made <;> cases made
      rfl
  · split at made <;> cases made
    rfl

theorem put_table (place : Place) (held : Option Database) (database : Database)
    (read : databaseAt place tree = .ok held) :
    tableAt place (tree.put place (.file (.database database))) = some database.rows? :=
  table_of_database place _ _ (database_put place tree held database read)

theorem keep_journal_table (place : Place) (journal : JournalMode) (held : Option Database)
    (read : databaseAt place tree = .ok held) :
    tableAt place (keepJournal place journal held tree) = tableAt place tree := by
  cases held with
  | none => rfl
  | some database =>
      rw [keepJournal, put_table tree place (some database) _ read,
        table_of_database place tree (some database) read]
      rfl

/-- A database that was set up stays as it is under its log, or without one. -/
theorem stored_table (place : Place) (named : place ≠ []) (held : Option Database)
    (database : Database) (read : databaseAt place tree = .ok held) (isLogged : Bool) :
    tableAt place
        (if isLogged then
          layLog location.keepsIndex place (tree.put place (.file (.database database)))
        else leave location place (tree.put place (.file (.database database)))) =
      some database.rows? := by
  rw [← put_table tree place held database read]
  apply content_table
  split
  · exact content_lay_log place named _ location.keepsIndex
  · exact content_leave place named location _

theorem file_opened :
    Opened (FileTree.destination (FilePath.steps path) FileTree.working) location tree
      (openFile settings location path tree).1 (openFile settings location path tree).2 := by
  have stays := connect_table location settings.path path tree
  unfold openFile
  split
  · rename_i next error connected
    rw [connected] at stays
    exact ⟨Or.inl stays, fun _ opened => nomatch opened⟩
  · rename_i next place held connected
    obtain ⟨rfl, named, read⟩ :=
      connected_place location settings.path path tree place held next connected
    rw [connected] at stays
    dsimp only at stays ⊢
    split
    · have left := content_table next _ _ (content_leave _ named location next)
      exact ⟨Or.inl (left.trans stays), fun _ opened => nomatch opened⟩
    · rename_i journal changed
      split
      · have left := content_table _ _ _ (content_leave _ named location
          (keepJournal (FileTree.destination (FilePath.steps path) FileTree.working) journal held
            next))
        have kept := keep_journal_table next _ journal held read
        exact ⟨Or.inl ((left.trans kept).trans stays), fun _ opened => nomatch opened⟩
      · rename_i database made
        have before := stays.symm.trans (table_of_database _ next held read)
        have after := stored_table location next _ named held database read
          (decide (journal = .wal) && location.allowsLog)
        rw [set_up_rows location _ journal held database made] at after
        constructor
        case kept =>
          cases held with
          | none => exact Or.inr ⟨before, after⟩
          | some old => exact Or.inl (after.trans before.symm)
        case held =>
          intro home opened
          cases opened
          exact ⟨by rw [after]; rfl, named, _, rfl, rfl, rfl⟩

/-- The settings name the file at the place, which may be written. -/
def Settings.LeadTo (settings : Settings) (place : Place) : Prop :=
  ∃ location path, locate settings.path = .ok location ∧ location.storage = .file path ∧
    location.writable = true ∧
    FileTree.destination (FilePath.steps path) FileTree.working = place

theorem store_opened (place : Place) (leads : settings.LeadTo place) :
    ∃ location : Location, location.writable = true ∧
      Opened place location tree (openStore settings tree).1 (openStore settings tree).2 := by
  obtain ⟨location, path, located, stored, writable, rfl⟩ := leads
  refine ⟨location, writable, ?_⟩
  have refused (next : FileTree) (error : Error) (same : ∀ place,
      next.root.content? place = tree.root.content? place) (place : Place) :
      Opened place location tree next (.error error) :=
    ⟨Or.inl (content_table tree place next (same place)), fun _ opened => nomatch opened⟩
  unfold openStore
  split
  · exact refused tree _ (fun _ => rfl) _
  · split
    · exact refused tree _ (fun _ => rfl) _
    · split
      · exact refused tree _ (fun _ => rfl) _
      · rename_i steps _
        have made := FileTree.content_create_directories tree steps
        split
        · rename_i next blocked
          rw [blocked] at made
          exact refused next _ made _
        · rename_i next created
          rw [created] at made
          rw [located]
          dsimp only
          unfold openLocation
          rw [stored]
          dsimp only
          have before := content_table tree
            (FileTree.destination (FilePath.steps path) FileTree.working) next (made _)
          have opened := file_opened settings location path next
          constructor
          case kept =>
            rw [← before]
            exact opened.kept
          case held => exact opened.held

end Opening

end FormEngine.DurableStore
