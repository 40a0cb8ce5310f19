import FormEngine.Form.Visibility

/-!
The state of a form session: its values, the fields that were registered, and a count of changes. A
write that changes nothing does not count. Receivers compare the count with the one they saw last;
what is published is the count within 64 bits.
-/

namespace FormEngine

structure FormState where
  values : FormValues
  registered : List (String × Unit)
  changes : Nat

/-- What a subscriber remembers. -/
structure Receiver where
  seen : Nat
  deriving DecidableEq

namespace FormState

def create (values : FormValues) : FormState := ⟨values, [], 0⟩

def version (state : FormState) : Nat := state.changes % Nat.pow 2 64

def register (path : String) (state : FormState) : FormState :=
  { state with registered := Keyed.insert path () state.registered }

def registeredFields (state : FormState) : List String := Keyed.keys state.registered

def get (path : String) (state : FormState) : Option FormValue := state.values.getPath path

def watch (paths : List String) (state : FormState) : List (Option FormValue) :=
  paths.map state.values.source

def setValue (path : String) (value : FormValue) (state : FormState) : FormState :=
  if state.values.getPath path = some value then state
  else { state with values := state.values.setPath path value, changes := state.changes + 1 }

def reset (values : FormValues) (state : FormState) : FormState :=
  if state.values = values then state
  else { state with values, changes := state.changes + 1 }

def subscribe (state : FormState) : Receiver := ⟨state.changes⟩

/-- Whether anything changed since the receiver looked last; it has looked now. -/
def poll (receiver : Receiver) (state : FormState) : Bool × Receiver :=
  (receiver.seen != state.changes, ⟨state.changes⟩)

end FormState

end FormEngine
