import FormEngine.AutoSave.Loop

/-!
A session that is saved while it is edited, on a virtual clock that moves only while the host
sleeps.
-/

namespace FormEngine.AutoSave

structure Session where
  now : Nat
  key : String
  settings : Settings
  state : FormState
  store : MemoryStore
  shutdown : Bool
  saveLoop : SaveLoop
  events : List Event

namespace Session

def create (schemaId : String) (settings : Settings) (values : FormValues) : Session :=
  { now := 0, key := settings.storageKey schemaId, settings
    state := FormState.create values, store := MemoryStore.empty, shutdown := false
    saveLoop := SaveLoop.create settings.enabled, events := [] }

def isEnabled (session : Session) : Bool := session.settings.enabled

section Turns

def save (session : Session) : Session × Bool :=
  let (store, event, saved) := saveSnapshot MemoryStore.operations session.state.values
    session.store session.key session.settings.maxBytes
  ({ session with store, events := session.events ++ [event] }, saved)

def turn? (session : Session) : Option Session :=
  (session.saveLoop.turn? session.now session.settings.debounce session.shutdown
    session.state).map fun step =>
      match step with
      | .onward next => { session with saveLoop := next }
      | .save next => ({ session with saveLoop := next }.save).1

/-- At one instant the loop starts, takes in a change, saves and ends at most once each. -/
def settle : Nat → Session → Session
  | 0, session => session
  | fuel + 1, session =>
      match session.turn? with
      | some next => settle fuel next
      | none => session

def settled (session : Session) : Session := session.settle 8

def sleep (duration : Nat) (session : Session) : Session :=
  if duration = 0 then session
  else
    let finish := session.now + duration
    let session := session.settled
    match session.saveLoop.deadline with
    | some deadline =>
        if session.saveLoop.stage = .running && session.now < deadline && deadline < finish then
          { ({ session with now := deadline }.settled) with now := finish }
        else { session with now := finish }
    | none => { session with now := finish }

end Turns

section Host

def setValue (path : String) (value : FormValue) (session : Session) : Session :=
  { session with state := session.state.setValue path value }

def reset (values : FormValues) (session : Session) : Session :=
  { session with state := session.state.reset values }

def cancelAll (session : Session) : Session := { session with shutdown := true }

def join (session : Session) : Session := session.cancelAll.settled

def discard (session : Session) : Session :=
  { session.cancelAll with saveLoop := { session.saveLoop with stage := .ended } }

def setFailing (failing : Option StoreFailure) (session : Session) : Session :=
  { session with store := { session.store with failing } }

/-- Writes the key directly, past a failing store. -/
def put (payload : String) (session : Session) : Session :=
  { session with
    store := { session.store with
      entries := Keyed.insert session.key payload session.store.entries } }

def load (session : Session) : Option FormValues :=
  Persistence.load MemoryStore.operations session.store session.key session.settings.maxBytes

def clear (session : Session) : Except StoreFailure Session :=
  (Persistence.clear MemoryStore.operations session.store session.key).map fun store =>
    { session with store }

def stored (session : Session) : Option String :=
  Keyed.find? session.key session.store.entries

end Host

end Session

end FormEngine.AutoSave
