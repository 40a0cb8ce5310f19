import FormEngine.Diagnostics.Event
import FormEngine.Session.State
import FormEngine.Store.Persistence

/-!
Saving a session while it is edited. The loop waits until the values have been left alone for the
debounce delay and then saves all of them under one key. What happened before the loop has begun is
not seen as a change.

Of the things that could be next, a shutdown comes before a change and a change before the deadline.
-/

namespace FormEngine.AutoSave

structure Settings where
  enabled : Bool
  debounce : Nat
  keyPrefix : String
  maxBytes : Nat
  deriving DecidableEq

namespace Settings

def standardDebounce : Nat := 300
def standardPrefix : String := "schema-form-autosave-"

def standard : Settings :=
  ⟨true, standardDebounce, standardPrefix, Persistence.standardLimit⟩

def storageKey (settings : Settings) (schemaId : String) : String :=
  settings.keyPrefix ++ schemaId

end Settings

section Snapshots

def skipReason : PersistError → String
  | .invalidShape => "invalid_shape"
  | .tooLarge _ _ => "too_large"
  | .store failure => "store_failed: " ++ failure.message

variable {Store : Type} (operations : StoreOperations Store)

/-- Saves the values of a state: the store afterwards, what to report, and whether it was saved. -/
def saveSnapshot (values : FormValues) (store : Store) (key : String) (limit : Nat) :
    Store × Event × Bool :=
  match Persistence.persist operations store key values.toJson limit with
  | .ok saved => (saved, .saved key values.toJson.byteSize, true)
  | .error error => (store, .skipped key (skipReason error), false)

end Snapshots

inductive Stage where
  | waiting
  | running
  | ended
  deriving DecidableEq

structure SaveLoop where
  stage : Stage
  receiver : Receiver
  deadline : Option Nat

/-- What a turn of the loop asks for. -/
inductive Step where
  | onward (next : SaveLoop)
  | save (next : SaveLoop)

namespace SaveLoop

def create (enabled : Bool) : SaveLoop :=
  ⟨if enabled then .waiting else .ended, ⟨0⟩, none⟩

def turn? (now debounce : Nat) (shutdown : Bool) (state : FormState) (held : SaveLoop) :
    Option Step :=
  match held.stage with
  | .ended => none
  | .waiting => some (.onward ⟨.running, state.subscribe, none⟩)
  | .running =>
      if shutdown then some (.onward { held with stage := .ended })
      else if held.receiver.seen ≠ state.changes then
        some (.onward { held with
          receiver := state.subscribe, deadline := some (now + debounce) })
      else if held.deadline.any fun deadline => deadline ≤ now then
        some (.save { held with deadline := none })
      else none

end SaveLoop

end FormEngine.AutoSave
