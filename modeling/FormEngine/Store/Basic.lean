import FormEngine.Keyed

/-!
Stores of payloads under text keys: the operations that a store offers, the ways in which an access
may fail, and the store that lives in memory.
-/

namespace FormEngine

inductive StoreFailure where
  | io (message : String)
  | rejected (message : String)
  | store (message : String)
  deriving DecidableEq

namespace StoreFailure

def label : StoreFailure → String
  | .io _ => "Io"
  | .rejected _ => "Rejected"
  | .store _ => "Store"

def message : StoreFailure → String
  | .io text => "value store io error: " ++ text
  | .rejected text => "value store rejected write: " ++ text
  | .store text => "value store error: " ++ text

end StoreFailure

/-- A failed access leaves the store as it was. -/
structure StoreOperations (Store : Type) where
  get : Store → String → Except StoreFailure (Option String)
  set : Store → String → String → Except StoreFailure Store
  remove : Store → String → Except StoreFailure Store

/-- While `failing` is set every access fails with it. -/
structure MemoryStore where
  entries : List (String × String)
  failing : Option StoreFailure

namespace MemoryStore

def empty : MemoryStore := ⟨[], none⟩

def access {Result : Type} (store : MemoryStore) (result : Result) :
    Except StoreFailure Result :=
  match store.failing with
  | some failure => .error failure
  | none => .ok result

def operations : StoreOperations MemoryStore where
  get store key := store.access (Keyed.find? key store.entries)
  set store key payload :=
    store.access { store with entries := Keyed.insert key payload store.entries }
  remove store key := store.access { store with entries := Keyed.erase key store.entries }

end MemoryStore

end FormEngine
