import FormEngine.Store.Basic
import FormEngine.Store.Connection

/-!
A store of payloads in a database. Keys and payloads are checked before the database is touched, and
what is read is held to the same limit, so no payload beyond the limit goes in or out. A database is
set up when it is first opened and refused when it was set up for another version.
-/

namespace FormEngine

inductive SyncMode where
  | full
  | normal
  deriving DecidableEq

def SyncMode.all : List SyncMode := [.full, .normal]

def SyncMode.tag : SyncMode → String
  | .full => "full"
  | .normal => "normal"

namespace DurableStore

structure Settings where
  path : String
  busyTimeout : Nat
  journalMode : JournalMode
  syncMode : SyncMode
  maxPayload : Nat
  deriving DecidableEq

def standardBusyTimeout : Nat := 5000
def standardMaxPayload : Nat := 1024 * 1024

def Settings.standard (path : String) : Settings :=
  ⟨path, standardBusyTimeout, .wal, .full, standardMaxPayload⟩

/-- What a caller sees that knows only stores in general. -/
def Error.toFailure (error : Error) : StoreFailure :=
  match error.kind with
  | .io => .io error.detail
  | .engine | .versionMismatch => .store error.message
  | .invalid | .tooLarge => .rejected error.message

section Checks

def maxKeyBytes : Nat := 512

def checkKey (key : String) : Except Error Unit :=
  if key.isEmpty then .error .emptyKey
  else if maxKeyBytes < key.utf8ByteSize then .error .longKey
  else .ok ()

def checkPayload (settings : Settings) (payload : String) : Except Error Unit :=
  if settings.maxPayload < payload.utf8ByteSize then
    .error (.tooLarge settings.maxPayload payload.utf8ByteSize)
  else .ok ()

def checkPath (path : String) : Except Error Unit :=
  if path.isEmpty then .error .emptyPath
  else if FilePath.maxBytes < path.utf8ByteSize then .error .longPath
  else if !FilePath.stepsFit path then .error .longStep
  else .ok ()

/-- All that is checked before the file system is asked. -/
def Settings.check (settings : Settings) : Except Error Unit :=
  if settings.maxPayload = 0 then .error .zeroLimit else checkPath settings.path

end Checks

section Opening

/-- A store's hold on a database file. While a log is kept, all of a database that was `begun` under
it is in the log. -/
structure Hold where
  place : Place
  location : Location
  isLogged : Bool
  begun : Bool

inductive Home where
  | file (hold : Hold)
  | memory (storage : Storage) (database : Database)

/-- Changes how a file is kept safe, where that is possible at all. -/
def changeJournal (location : Location) (fits : Bool) (wanted current : JournalMode) :
    Except Error JournalMode :=
  match current, wanted with
  | .delete, .wal =>
      if !location.allowsLog then .ok .delete
      else if !location.writable then .error .readOnly
      else if !fits then .error .unreachable
      else .ok .wal
  | .wal, .delete =>
      if location.frozen then .ok .wal
      else if !location.writable then .error .deviceFailure
      else .ok .delete
  | .wal, .wal => .ok .wal
  | .delete, .delete => .ok .delete

def currentJournal (held : Option Database) : JournalMode :=
  match held with
  | some database => database.journal
  | none => .delete

/-- Sets up a database that was not set up yet, and checks the version of one that was. -/
def setUp (location : Location) (fits : Bool) (journal : JournalMode) :
    Option Database → Except Error Database
  | none =>
      if !location.writable then .error .readOnly
      else if !fits then .error .unreachable
      else .ok (.fresh journal)
  | some database =>
      if database.version = Database.supportedVersion then .ok { database with journal }
      else .error (.versionMismatch database.version)

/-- A changed journal stays changed when the version is refused then. -/
def keepJournal (place : Place) (journal : JournalMode) (held : Option Database)
    (tree : FileTree) : FileTree :=
  match held with
  | some database => tree.put place (.file (.database { database with journal }))
  | none => tree

def openFile (settings : Settings) (location : Location) (path : String) (tree : FileTree) :
    FileTree × Except Error Home :=
  match connect location settings.path path tree with
  | (tree, .error error) => (tree, .error error)
  | (tree, .ok (place, held)) =>
      let fits := journalFits place
      match changeJournal location fits settings.journalMode (currentJournal held) with
      | .error error => (leave location place tree, .error error)
      | .ok journal =>
          match setUp location fits journal held with
          | .error error =>
              (leave location place (keepJournal place journal held tree), .error error)
          | .ok database =>
              let isLogged := journal = .wal && location.allowsLog
              let tree := tree.put place (.file (.database database))
              let tree :=
                if isLogged then layLog location.keepsIndex place tree
                else leave location place tree
              (tree, .ok (.file ⟨place, location, isLogged, held.isNone && isLogged⟩))

def openLocation (settings : Settings) (location : Location) (tree : FileTree) :
    FileTree × Except Error Home :=
  match location.storage with
  | .file path => openFile settings location path tree
  | storage => (tree, (setUp location true .delete none).map (.memory storage))

def openStore (settings : Settings) (tree : FileTree) : FileTree × Except Error Home :=
  match settings.check with
  | .error error => (tree, .error error)
  | .ok () =>
      if tree.isDirectoryAt settings.path then (tree, .error .directory)
      else
        match FilePath.parent? settings.path with
        | none => (tree, .error .noParent)
        | some steps =>
            match tree.createDirectories steps with
            | (tree, false) => (tree, .error .parentBlocked)
            | (tree, true) =>
                match locate settings.path with
                | .error error => (tree, .error error)
                | .ok location => openLocation settings location tree

def Home.close (home : Home) (tree : FileTree) : FileTree :=
  match home with
  | .memory _ _ => tree
  | .file hold => leave hold.location hold.place tree

/-- No query succeeds on a file that was replaced by something else. -/
def Home.databaseIn (home : Home) (tree : FileTree) : Database :=
  match home with
  | .memory _ database => database
  | .file hold =>
      match databaseAt hold.place tree with
      | .ok (some database) => database
      | _ => .lost .delete

def Home.put (home : Home) (tree : FileTree) (database : Database) : Home × FileTree :=
  match home with
  | .memory storage _ => (.memory storage database, tree)
  | .file hold =>
      match databaseAt hold.place tree with
      | .ok (some _) => (home, tree.put hold.place (.file (.database database)))
      | _ => (home, tree)

def Home.isWritable : Home → Bool
  | .memory _ _ => true
  | .file hold => hold.location.writable

end Opening

section Access

/-- A store that may be worked on: what it was opened with, and the database as it is now. -/
structure Session where
  settings : Settings
  isWritable : Bool
  database : Database

def Home.session (home : Home) (settings : Settings) (tree : FileTree) : Session :=
  ⟨settings, home.isWritable, home.databaseIn tree⟩

variable (session : Session)

def queried {Result : Type} : Option Result → Except Error Result
  | some result => .ok result
  | none => .error .noTable

def changed (database : Option Database) : Except Error Session :=
  match database with
  | none => .error .noTable
  | some database =>
      if session.isWritable then .ok { session with database } else .error .readOnly

def keys : Except Error (List String) := queried session.database.keys?

def load (key : String) : Except Error (Option String) := do
  checkKey key
  match ← queried (session.database.select? key) with
  | none => .ok none
  | some payload =>
      checkPayload session.settings payload
      .ok (some payload)

def save (key payload : String) : Except Error Session := do
  checkKey key
  checkPayload session.settings payload
  changed session (session.database.upsert? key payload)

def delete (key : String) : Except Error Session := do
  checkKey key
  changed session (session.database.delete? key)

end Access

def operations : StoreOperations Session where
  get session key := (load session key).mapError Error.toFailure
  set session key payload := (save session key payload).mapError Error.toFailure
  remove session key := (delete session key).mapError Error.toFailure

end DurableStore

end FormEngine
