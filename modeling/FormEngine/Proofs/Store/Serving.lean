import FormEngine.Proofs.Keyed
import FormEngine.Proofs.Store.Reopening

/-!
What a store that is held open on a database file makes of a call. It reads the table as it is in the
file now, whoever has written it, and holds its own limit against what goes in and what comes out.
-/

namespace FormEngine

/-- A key that a store on a file takes. -/
def IsStoreKey (key : String) : Prop := 1 ≤ key.utf8ByteSize ∧ key.utf8ByteSize ≤ 512

section Calls

inductive StoreCall where
  | get (key : String)
  | set (key payload : String)
  | remove (key : String)
  deriving DecidableEq

inductive StoreAnswer where
  | found (payload : Option String)
  | done
  | failed (failure : StoreFailure)
  deriving DecidableEq

namespace StoreCall

def key : StoreCall → String
  | .get key => key
  | .set key _ => key
  | .remove key => key

variable {Store : Type} (operations : StoreOperations Store)

def perform (store : Store) : StoreCall → StoreAnswer × Store
  | .get key =>
      match operations.get store key with
      | .ok payload => (.found payload, store)
      | .error failure => (.failed failure, store)
  | .set key payload =>
      match operations.set store key payload with
      | .ok next => (.done, next)
      | .error failure => (.failed failure, store)
  | .remove key =>
      match operations.remove store key with
      | .ok next => (.done, next)
      | .error failure => (.failed failure, store)

/-- The answers to the calls, one after the other, and the store after them. -/
def performAll (store : Store) (calls : List StoreCall) : List StoreAnswer × Store :=
  calls.foldl (fun (answers, store) call =>
    let (answer, next) := call.perform operations store
    (answers ++ [answer], next)) ([], store)

theorem perform_all_snoc (store : Store) (calls : List StoreCall) (call : StoreCall) :
    performAll operations store (calls ++ [call]) =
      ((performAll operations store calls).1 ++
          [(call.perform operations (performAll operations store calls).2).1],
        (call.perform operations (performAll operations store calls).2).2) := by
  simp only [performAll, List.foldl_append, List.foldl_cons, List.foldl_nil]

end StoreCall

end Calls

namespace DurableStore

section Checks

theorem key_checked_iff (key : String) : checkKey key = .ok () ↔ IsStoreKey key := by
  have filled : key.isEmpty = true ↔ key.utf8ByteSize = 0 := by
    rw [String.isEmpty_iff, String.utf8ByteSize_eq_zero_iff]
  unfold checkKey IsStoreKey maxKeyBytes
  split
  · rename_i empty
    have none := filled.mp empty
    simp [none]
  · rename_i some
    have positive := mt filled.mpr some
    split
    · rename_i long
      simp only [reduceCtorEq, false_iff]
      omega
    · rename_i short
      simp only [true_iff]
      omega

theorem key_refused (key : String) (error : Error) (refused : checkKey key = .error error) :
    ∃ message, error.toFailure = .rejected message := by
  unfold checkKey at refused
  split at refused
  · cases refused
    exact ⟨_, rfl⟩
  · split at refused <;> cases refused
    exact ⟨_, rfl⟩

theorem payload_checked (settings : Settings) (payload : String)
    (fits : payload.utf8ByteSize ≤ settings.maxPayload) :
    checkPayload settings payload = .ok () := by
  rw [checkPayload, if_neg (Nat.not_lt.mpr fits)]

theorem payload_refused (settings : Settings) (payload : String)
    (large : settings.maxPayload < payload.utf8ByteSize) :
    checkPayload settings payload =
      .error (.tooLarge settings.maxPayload payload.utf8ByteSize) := by
  rw [checkPayload, if_pos large]

end Checks

/-- What a call can come to in a store with a limit: the answer, and the table after it. -/
inductive Served (limit : Nat) (rows : Rows) : StoreCall → StoreAnswer → Rows → Prop where
  | missing (key : String) (proper : IsStoreKey key) (absent : Keyed.find? key rows = none) :
      Served limit rows (.get key) (.found none) rows
  | found (key : String) (row : Database.Row) (proper : IsStoreKey key)
      (held : Keyed.find? key rows = some row) (fits : row.payload.utf8ByteSize ≤ limit) :
      Served limit rows (.get key) (.found (some row.payload)) rows
  | withheld (key message : String) (row : Database.Row) (proper : IsStoreKey key)
      (held : Keyed.find? key rows = some row) (large : limit < row.payload.utf8ByteSize) :
      Served limit rows (.get key) (.failed (.rejected message)) rows
  | stored (key payload : String) (proper : IsStoreKey key)
      (fits : payload.utf8ByteSize ≤ limit) :
      Served limit rows (.set key payload) .done
        (Keyed.insert key ⟨payload, payload.utf8ByteSize⟩ rows)
  | oversized (key payload message : String) (proper : IsStoreKey key)
      (large : limit < payload.utf8ByteSize) :
      Served limit rows (.set key payload) (.failed (.rejected message)) rows
  | erased (key : String) (proper : IsStoreKey key) :
      Served limit rows (.remove key) .done (Keyed.erase key rows)
  | improper (call : StoreCall) (message : String) (improper : ¬ IsStoreKey call.key) :
      Served limit rows call (.failed (.rejected message)) rows

section Outcomes

variable (limit : Nat) (rows next : Rows) (answer : StoreAnswer)

theorem served_get (key : String) (proper : IsStoreKey key)
    (served : Served limit rows (.get key) answer next) :
    (Keyed.find? key rows = none ∧ answer = .found none) ∨
      ∃ row, Keyed.find? key rows = some row ∧
        (row.payload.utf8ByteSize ≤ limit ∧ answer = .found (some row.payload) ∨
          limit < row.payload.utf8ByteSize ∧ ∃ message, answer = .failed (.rejected message)) := by
  cases served with
  | missing _ _ absent => exact Or.inl ⟨absent, rfl⟩
  | found _ row _ held fits => exact Or.inr ⟨row, held, Or.inl ⟨fits, rfl⟩⟩
  | withheld _ message row _ held large => exact Or.inr ⟨row, held, Or.inr ⟨large, message, rfl⟩⟩
  | improper _ _ improper => exact absurd proper improper

theorem served_set (key payload : String)
    (served : Served limit rows (.set key payload) answer next) :
    (IsStoreKey key ∧ payload.utf8ByteSize ≤ limit) ∧ answer = .done ∨
      ¬ (IsStoreKey key ∧ payload.utf8ByteSize ≤ limit) ∧
        ∃ message, answer = .failed (.rejected message) := by
  cases served with
  | stored _ _ proper fits => exact Or.inl ⟨⟨proper, fits⟩, rfl⟩
  | oversized _ _ message _ large =>
      exact Or.inr ⟨fun taken => absurd taken.2 (Nat.not_le.mpr large), message, rfl⟩
  | improper _ message improper => exact Or.inr ⟨fun taken => improper taken.1, message, rfl⟩

theorem served_remove (key : String) (proper : IsStoreKey key)
    (served : Served limit rows (.remove key) answer next) : answer = .done := by
  cases served with
  | erased => rfl
  | improper _ _ improper => exact absurd proper improper

theorem served_improper (call : StoreCall) (improper : ¬ IsStoreKey call.key)
    (served : Served limit rows call answer next) :
    ∃ message, answer = .failed (.rejected message) := by
  cases served with
  | improper _ message _ => exact ⟨message, rfl⟩
  | withheld _ message => exact ⟨message, rfl⟩
  | oversized _ _ message => exact ⟨message, rfl⟩
  | missing _ proper => exact absurd proper improper
  | found _ _ proper => exact absurd proper improper
  | stored _ _ proper => exact absurd proper improper
  | erased _ proper => exact absurd proper improper

theorem served_undone (call : StoreCall) (served : Served limit rows call answer next)
    (undone : answer ≠ .done) : next = rows := by
  cases served with
  | stored => exact absurd rfl undone
  | erased => exact absurd rfl undone
  | _ => rfl

end Outcomes

section Sessions

variable (session : Session)

theorem perform_get (key : String) :
    StoreCall.perform operations session (.get key) =
      match load session key with
      | .ok payload => (.found payload, session)
      | .error error => (.failed error.toFailure, session) := by
  cases loaded : load session key <;>
    simp only [StoreCall.perform, operations, loaded] <;> rfl

theorem perform_set (key payload : String) :
    StoreCall.perform operations session (.set key payload) =
      match save session key payload with
      | .ok next => (.done, next)
      | .error error => (.failed error.toFailure, session) := by
  cases saved : save session key payload <;>
    simp only [StoreCall.perform, operations, saved] <;> rfl

theorem perform_remove (key : String) :
    StoreCall.perform operations session (.remove key) =
      match delete session key with
      | .ok next => (.done, next)
      | .error error => (.failed error.toFailure, session) := by
  cases deleted : delete session key <;>
    simp only [StoreCall.perform, operations, deleted] <;> rfl

/-- The key is looked at first, whatever else is wrong. -/
theorem perform_improper (call : StoreCall) (error : Error)
    (refused : checkKey call.key = .error error) :
    call.perform operations session = (.failed error.toFailure, session) := by
  cases call with
  | get key =>
      have stopped : load session key = .error error := by
        rw [load, show checkKey key = .error error from refused]
        rfl
      rw [perform_get, stopped]
  | set key payload =>
      have stopped : save session key payload = .error error := by
        rw [save, show checkKey key = .error error from refused]
        rfl
      rw [perform_set, stopped]
  | remove key =>
      have stopped : delete session key = .error error := by
        rw [delete, show checkKey key = .error error from refused]
        rfl
      rw [perform_remove, stopped]

variable (rows : Rows) (table : session.database.rows? = some rows)

include table

theorem get_served (key : String) (checked : checkKey key = .ok ()) :
    Served session.settings.maxPayload rows (.get key)
        (StoreCall.perform operations session (.get key)).1 rows ∧
      (StoreCall.perform operations session (.get key)).2 = session := by
  have proper := (key_checked_iff key).mp checked
  rw [perform_get]
  simp only [load, checked, Database.select?, table, Option.map_some, queried, bind, Except.bind]
  cases held : Keyed.find? key rows with
  | none => exact ⟨.missing key proper held, rfl⟩
  | some row =>
      dsimp only [Option.map_some]
      by_cases fits : row.payload.utf8ByteSize ≤ session.settings.maxPayload
      · rw [payload_checked session.settings row.payload fits]
        exact ⟨.found key row proper held fits, rfl⟩
      · have large := Nat.not_le.mp fits
        rw [payload_refused session.settings row.payload large]
        exact ⟨.withheld key _ row proper held large, rfl⟩

variable (writable : session.isWritable = true)

include writable

theorem set_served (key payload : String) (checked : checkKey key = .ok ()) :
    ∃ next, Served session.settings.maxPayload rows (.set key payload)
        (StoreCall.perform operations session (.set key payload)).1 next ∧
      (StoreCall.perform operations session (.set key payload)).2.database.rows? = some next := by
  have proper := (key_checked_iff key).mp checked
  rw [perform_set]
  simp only [save, checked, bind, Except.bind]
  by_cases fits : payload.utf8ByteSize ≤ session.settings.maxPayload
  · rw [payload_checked session.settings payload fits]
    simp only [changed, Database.upsert?, table, Option.map_some, writable, ↓reduceIte]
    exact ⟨_, .stored key payload proper fits, rfl⟩
  · have large := Nat.not_le.mp fits
    rw [payload_refused session.settings payload large]
    exact ⟨rows, .oversized key payload _ proper large, table⟩

theorem remove_served (key : String) (checked : checkKey key = .ok ()) :
    ∃ next, Served session.settings.maxPayload rows (.remove key)
        (StoreCall.perform operations session (.remove key)).1 next ∧
      (StoreCall.perform operations session (.remove key)).2.database.rows? = some next := by
  have proper := (key_checked_iff key).mp checked
  rw [perform_remove]
  simp only [delete, checked, bind, Except.bind, changed, Database.delete?, table, Option.map_some,
    writable, ↓reduceIte]
  exact ⟨_, .erased key proper, rfl⟩

theorem call_served (call : StoreCall) :
    ∃ next, Served session.settings.maxPayload rows call (call.perform operations session).1 next ∧
      (call.perform operations session).2.database.rows? = some next := by
  cases checked : checkKey call.key with
  | error error =>
      obtain ⟨message, rejected⟩ := key_refused call.key error checked
      have improper : ¬ IsStoreKey call.key := by
        rw [← key_checked_iff, checked]
        simp
      rw [perform_improper session call error checked, rejected]
      exact ⟨rows, .improper call message improper, table⟩
  | ok _ =>
      cases call with
      | get key =>
          obtain ⟨served, same⟩ := get_served session rows table key checked
          exact ⟨rows, served, by rw [same, table]⟩
      | set key payload => exact set_served session rows table writable key payload checked
      | remove key => exact remove_served session rows table writable key checked

end Sessions

/-- A store that is held open on a database file. -/
structure Handle where
  settings : Settings
  hold : Hold

namespace Handle

def session (handle : Handle) (tree : FileTree) : Session :=
  (Home.file handle.hold).session handle.settings tree

/-- What is changed is put back into the file. -/
def perform (handle : Handle) (tree : FileTree) (call : StoreCall) : StoreAnswer × FileTree :=
  match call.perform operations (handle.session tree) with
  | (.done, next) => (.done, ((Home.file handle.hold).put tree next.database).2)
  | (answer, _) => (answer, tree)

/-- The handle is on a place, and may write there. -/
structure On (handle : Handle) (place : Place) : Prop where
  there : handle.hold.place = place
  named : place ≠ []
  writable : handle.hold.location.writable = true

variable (handle : Handle) (place : Place) (on : handle.On place) (tree : FileTree) (rows : Rows)
  (table : tableAt place tree = some (some rows))

include on table

theorem session_table :
    (handle.session tree).database.rows? = some rows ∧ (handle.session tree).isWritable = true := by
  obtain ⟨database, held, same⟩ := database_of_table place tree (some rows) table
  constructor
  · simp only [session, Home.session, Home.databaseIn, on.there, held, same]
  · exact on.writable

/-- A call is answered by the table in the file, and only a successful change is written there. -/
theorem perform_served (call : StoreCall) :
    ∃ next, Served handle.settings.maxPayload rows call (handle.perform tree call).1 next ∧
      tableAt place (handle.perform tree call).2 = some (some next) ∧
      ((handle.perform tree call).1 ≠ .done → (handle.perform tree call).2 = tree) := by
  obtain ⟨held, writable⟩ := session_table handle place on tree rows table
  obtain ⟨next, served, changed⟩ := call_served (handle.session tree) rows held writable call
  obtain ⟨database, there, _⟩ := database_of_table place tree (some rows) table
  unfold perform
  generalize call.perform operations (handle.session tree) = performed at served changed
  obtain ⟨answer, after⟩ := performed
  refine ⟨next, ?_⟩
  cases answer with
  | done =>
      have written := put_table tree place (some database) after.database there
      have put : ((Home.file handle.hold).put tree after.database).2 =
          tree.put place (.file (.database after.database)) := by
        simp only [Home.put, on.there, there]
      dsimp only at served changed ⊢
      rw [put, written, changed]
      exact ⟨served, rfl, fun undone => absurd rfl undone⟩
  | found payload =>
      obtain rfl := served_undone _ rows next _ call served (by simp)
      exact ⟨served, table, fun _ => rfl⟩
  | failed failure =>
      obtain rfl := served_undone _ rows next _ call served (by simp)
      exact ⟨served, table, fun _ => rfl⟩

end Handle

end DurableStore

end FormEngine
