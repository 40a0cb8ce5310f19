import FormEngine.Keyed

/-!
A database of payloads: how its file is kept safe, the version it was set up with, and the table of
payloads under their keys beside the size that was recorded for each. The table may be missing; then
no query succeeds.
-/

namespace FormEngine

/-- How a database file is kept safe while it changes: by a log beside it, which may stay there, or
by a journal that is deleted after each change. -/
inductive JournalMode where
  | wal
  | delete
  deriving DecidableEq

def JournalMode.all : List JournalMode := [.wal, .delete]

def JournalMode.tag : JournalMode → String
  | .wal => "wal"
  | .delete => "delete"

structure Database.Row where
  payload : String
  recordedSize : Int
  deriving DecidableEq

structure Database where
  journal : JournalMode
  version : Int
  rows? : Option (List (String × Database.Row))
  deriving DecidableEq

namespace Database

def supportedVersion : Int := 1

def fresh (journal : JournalMode) : Database := ⟨journal, supportedVersion, some []⟩

/-- A database in which no query succeeds. -/
def lost (journal : JournalMode) : Database := ⟨journal, supportedVersion, none⟩

def keys? (database : Database) : Option (List String) := database.rows?.map Keyed.keys

/-- Nothing when the table is missing; no payload when the key is. -/
def select? (database : Database) (key : String) : Option (Option String) :=
  database.rows?.map fun rows => (Keyed.find? key rows).map Row.payload

def upsert? (database : Database) (key payload : String) : Option Database :=
  database.rows?.map fun rows =>
    { database with rows? := some (Keyed.insert key ⟨payload, payload.utf8ByteSize⟩ rows) }

def delete? (database : Database) (key : String) : Option Database :=
  database.rows?.map fun rows => { database with rows? := some (Keyed.erase key rows) }

section Direct

def setVersion (database : Database) (version : Int) : Database := { database with version }

/-- The recorded size is zero for a new key and stays as it was for a known one. -/
def putPayload? (database : Database) (key payload : String) : Option Database :=
  database.rows?.map fun rows =>
    let recorded := ((Keyed.find? key rows).map Row.recordedSize).getD 0
    { database with rows? := some (Keyed.insert key ⟨payload, recorded⟩ rows) }

def dropTable? (database : Database) : Option Database :=
  database.rows?.map fun _ => { database with rows? := none }

def recordedSize? (database : Database) (key : String) : Option (Option Int) :=
  database.rows?.map fun rows => (Keyed.find? key rows).map Row.recordedSize

end Direct

end Database

end FormEngine
