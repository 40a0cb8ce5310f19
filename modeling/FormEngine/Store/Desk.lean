import FormEngine.Store.Durable

/-!
A tree of files with at most one durable store open on it. Files can be worked on past the open
store, which sees at its next access what has become of its database.
-/

namespace FormEngine

structure Desk where
  tree : FileTree
  opened : Option (DurableStore.Settings × DurableStore.Home)

namespace Desk

def start : Desk := ⟨.start, none⟩

def close (desk : Desk) : Desk :=
  match desk.opened with
  | none => desk
  | some (_, home) => ⟨home.close desk.tree, none⟩

/-- Whatever was open is closed first, also when nothing can be opened then. -/
def openStore (settings : DurableStore.Settings) (desk : Desk) :
    Option DurableStore.Error × Desk :=
  match DurableStore.openStore settings desk.close.tree with
  | (tree, .ok home) => (none, ⟨tree, some (settings, home)⟩)
  | (tree, .error error) => (some error, ⟨tree, none⟩)

def session? (desk : Desk) : Option DurableStore.Session :=
  desk.opened.map fun (settings, home) => home.session settings desk.tree

def put (database : Database) (desk : Desk) : Desk :=
  match desk.opened with
  | none => desk
  | some (settings, home) =>
      let (home, tree) := home.put desk.tree database
      ⟨tree, some (settings, home)⟩

/-- The hold of the open store, if it is on this place. -/
def holdOn? (place : FileTree.Place) (desk : Desk) : Option DurableStore.Hold :=
  match desk.opened with
  | some (_, .file hold) => if hold.place = place then some hold else none
  | _ => none

/-- Replaces what a file holds. A database that is all in the log of the open store is not harmed:
it comes back from there. -/
def write? (path : String) (content : ByteArray) (desk : Desk) : Option Desk :=
  let isSafe := ((desk.tree.resolve? path).bind fun place => desk.holdOn? place).any
    fun hold => hold.begun
  if isSafe then some desk
  else (desk.tree.write? path content).map fun tree => { desk with tree }

section Direct

variable {Result : Type}

/-- Something that is done to a database: what comes of it, and the database afterwards. -/
abbrev Task (Result : Type) := Database → Option (Result × Database)

/-- Whether a task may leave the database as it found it only. -/
def runTask (writable changes : Bool) (task : Task Result) (held : Option Database) :
    Option (Result × Database) :=
  if changes && !writable then none else held.bind task

/-- A task on a file, done past every store. A missing file is begun even when the task fails. Who
takes a file for frozen sees nothing of what is in a log only. -/
def onFile (changes : Bool) (task : Task Result) (location : DurableStore.Location)
    (name path : String) (desk : Desk) : Option Result × Desk :=
  match DurableStore.connect location name path desk.tree with
  | (tree, .error _) => (none, { desk with tree })
  | (tree, .ok (place, held)) =>
      let hold := desk.holdOn? place
      let finish (tree : FileTree) : Desk :=
        if hold.isSome then { desk with tree }
        else { desk with tree := DurableStore.leave location place tree }
      let seen :=
        if location.frozen && hold.any (fun hold => hold.begun) then none else held
      match runTask location.writable changes task seen with
      | none => (none, finish tree)
      | some (result, database) =>
          (some result, finish (tree.put place (.file (.database database))))

/-- A task on a database without a file finds something there only if a store has it open. -/
def onMemory (task : Task Result) (storage : DurableStore.Storage) (desk : Desk) :
    Option Result × Desk :=
  match desk.opened with
  | some (settings, .memory held database) =>
      if held = storage ∧ storage ≠ .alone then
        match task database with
        | some (result, database) =>
            (some result, { desk with opened := some (settings, .memory held database) })
        | none => (none, desk)
      else (none, desk)
  | _ => (none, desk)

def perform (changes : Bool) (task : Task Result) (name : String) (desk : Desk) :
    Option Result × Desk :=
  match DurableStore.locate name with
  | .error _ => (none, desk)
  | .ok location =>
      match location.storage with
      | .file path => onFile changes task location name path desk
      | storage => onMemory task storage desk

/-- Changes a database past the open store, and says whether that succeeded. -/
def edit (name : String) (change : Database → Option Database) (desk : Desk) : Bool × Desk :=
  let (done, desk) :=
    perform true (fun held => (change held).map fun database => ((), database)) name desk
  (done.isSome, desk)

def inspect (name : String) (query : Database → Option Result) (desk : Desk) :
    Option Result × Desk :=
  perform false (fun held => (query held).map fun result => (result, held)) name desk

end Direct

end Desk

end FormEngine
