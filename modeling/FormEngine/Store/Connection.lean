import FormEngine.Files.Tree
import FormEngine.Store.Location

/-!
Getting at the database in a file. A file may have other files beside it: a log and its index while
the database is kept safe by a log, and a journal that an interrupted change has left. They go away
when the last one who may write to the database leaves it.
-/

namespace FormEngine.DurableStore

abbrev Place := FileTree.Place

section Companions

/-- The file of the same name with an ending. -/
def companion (ending : String) (place : Place) : Place :=
  match place.getLast? with
  | some name => place.dropLast ++ [name ++ ending]
  | none => place

def logPlace : Place → Place := companion "-wal"
def indexPlace : Place → Place := companion "-shm"
def journalPlace : Place → Place := companion "-journal"

/-- A journal can be written. -/
def journalFits (place : Place) : Bool := (journalPlace place).all FileTree.nameFits

/-- What a log holds is no database. -/
def companionContent : FileNode := .file (.bytes "log".toUTF8)

def layLog (keepsIndex : Bool) (place : Place) (tree : FileTree) : FileTree :=
  let tree := tree.put (logPlace place) companionContent
  if keepsIndex then tree.put (indexPlace place) companionContent else tree

def clearLog (place : Place) (tree : FileTree) : FileTree :=
  (tree.remove (logPlace place)).remove (indexPlace place)

/-- Directories of those names stand in the way. -/
def isObstructed (place : Place) (tree : FileTree) : Bool :=
  tree.isDirectory (logPlace place) || tree.isDirectory (journalPlace place)

end Companions

section Reaching

/-- The whole name of a database file, counted from the root. -/
def maxNameBytes : Nat := 504

def nameBytes (place : Place) : Nat :=
  place.foldl (fun size name => size + (name.utf8ByteSize + 1)) 0

/-- The place of a database file, which is begun empty if it is missing and may be. A directory
below the root can be opened for reading alone, but it cannot be read. -/
def reach (location : Location) (name path : String) (tree : FileTree) :
    Except Error (Place × FileTree) :=
  match tree.walkNames (FilePath.steps path) FileTree.working with
  | none => .error (.cannotOpen name)
  | some [] => .error (.cannotOpen name)
  | some place =>
      if maxNameBytes < nameBytes place then .error (.cannotOpen name)
      else
        match tree.find? place with
        | some (.file _) => .ok (place, tree)
        | some (.directory _) =>
            if location.writable || location.frozen then .error (.cannotOpen name)
            else .error .deviceFailure
        | none =>
            if location.creates && tree.isDirectory place.dropLast then
              .ok (place, tree.put place (.file (.bytes .empty)))
            else .error (.cannotOpen name)

/-- An empty file is a database that was not set up yet. -/
def databaseAt (place : Place) (tree : FileTree) : Except Error (Option Database) :=
  match tree.find? place with
  | some (.file (.database database)) => .ok (some database)
  | some (.file (.bytes content)) => if content.isEmpty then .ok none else .error .notDatabase
  | _ => .error .unreachable

/-- What the file holds, read as its location says. -/
def read (location : Location) (place : Place) (tree : FileTree) :
    Except Error (Option Database) :=
  if location.frozen then databaseAt place tree
  else if isObstructed place tree then .error .deviceFailure
  else
    match databaseAt place tree with
    | .ok (some database) =>
        if database.journal = .wal ∧
            (!location.allowsLog || tree.isDirectory (indexPlace place)) then
          .error .unreachable
        else .ok (some database)
    | other => other

/-- A journal is settled when the database is first read. One without content stays beside a
database that has some. -/
def settleJournal (location : Location) (place : Place) (held : Option Database)
    (tree : FileTree) : FileTree :=
  match tree.find? (journalPlace place) with
  | some (.file (.bytes content)) =>
      if location.writable && (held.isNone || !content.isEmpty) then
        tree.remove (journalPlace place)
      else tree
  | _ => tree

/-- What the last one to leave a file does with its log. Who may not write leaves it behind. -/
def leave (location : Location) (place : Place) (tree : FileTree) : FileTree :=
  let logged : Bool :=
    match databaseAt place tree with
    | .ok (some database) => database.journal = .wal
    | _ => false
  if location.frozen then tree
  else if location.writable then
    if logged || tree.isFile (logPlace place) then clearLog place tree else tree
  else if logged && location.allowsLog then layLog location.keepsIndex place tree
  else tree

/-- Opens a file: where it is, and what it holds. -/
def connect (location : Location) (name path : String) (tree : FileTree) :
    FileTree × Except Error (Place × Option Database) :=
  match reach location name path tree with
  | .error error => (tree, .error error)
  | .ok (place, tree) =>
      match read location place tree with
      | .error error => (tree, .error error)
      | .ok held => (settleJournal location place held tree, .ok (place, held))

end Reaching

end FormEngine.DurableStore
