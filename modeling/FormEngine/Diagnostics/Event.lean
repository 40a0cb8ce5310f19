import FormEngine.Json.Printer

/-!
Diagnostic events and their lines. A line is one JSON object with its fields in a fixed order; line
breaks in texts are escaped, so an event never takes more than one line.
-/

namespace FormEngine

namespace Integration

inductive Phase where
  | idle
  | debouncing
  | inFlight
  | applied
  | aborted
  | failed
  deriving DecidableEq

def Phase.all : List Phase := [.idle, .debouncing, .inFlight, .applied, .aborted, .failed]

def Phase.label : Phase → String
  | .idle => "idle"
  | .debouncing => "debouncing"
  | .inFlight => "in_flight"
  | .applied => "applied"
  | .aborted => "aborted"
  | .failed => "failed"

inductive Happening where
  | entered (phase : Phase)
  | rejected
  | failed (message : String)
  deriving DecidableEq

/-- An event of the integration at a position in the list of all integrations. -/
structure Event where
  integration : Nat
  endpoint : String
  happening : Happening
  deriving DecidableEq

namespace Event

def name (event : Event) : String :=
  match event.happening with
  | .entered _ => "integration_transition"
  | .rejected => "integration_rejected"
  | .failed _ => "integration_failed"

def phase? (event : Event) : Option Phase :=
  match event.happening with
  | .entered phase => some phase
  | _ => none

def message? (event : Event) : Option String :=
  match event.happening with
  | .failed message => some message
  | _ => none

def fields (time : Nat) (event : Event) : List (String × Json) :=
  [("event", .str event.name), ("timestamp_ms", .ofNat time),
   ("integration", .ofNat event.integration), ("endpoint", .str event.endpoint),
   ("phase", .ofOption (fun phase => .str phase.label) event.phase?),
   ("message", .ofOption .str event.message?)]

end Event

end Integration

namespace AutoSave

inductive Event where
  | saved (key : String) (bytes : Nat)
  | skipped (key reason : String)
  deriving DecidableEq

namespace Event

def name : Event → String
  | .saved _ _ => "autosave_saved"
  | .skipped _ _ => "autosave_skipped"

def key : Event → String
  | .saved key _ => key
  | .skipped key _ => key

def bytes? : Event → Option Nat
  | .saved _ bytes => some bytes
  | .skipped _ _ => none

def reason? : Event → Option String
  | .saved _ _ => none
  | .skipped _ reason => some reason

def fields (time : Nat) (event : Event) : List (String × Json) :=
  [("event", .str event.name), ("timestamp_ms", .ofNat time), ("key", .str event.key),
   ("bytes", .ofOption .ofNat event.bytes?), ("reason", .ofOption .str event.reason?)]

end Event

end AutoSave

namespace Diagnostics

inductive Event where
  | integration (event : Integration.Event)
  | autoSave (event : AutoSave.Event)
  deriving DecidableEq

def Event.fields (time : Nat) : Event → List (String × Json)
  | .integration event => event.fields time
  | .autoSave event => event.fields time

/-- The fields of an object in the order given. -/
def objectText (fields : List (String × Json)) : List Char :=
  '\x7b' :: (Json.membersText fields ++ ['\x7d'])

def Event.line (time : Nat) (event : Event) : String :=
  String.ofList (objectText (event.fields time))

/-- A file of events after one more was recorded. -/
def record (time : Nat) (event : Event) (content : String) : String :=
  content ++ event.line time ++ "\n"

def integrationEvents (events : List Event) : List Integration.Event :=
  events.filterMap fun event =>
    match event with
    | .integration event => some event
    | .autoSave _ => none

def autoSaveEvents (events : List Event) : List AutoSave.Event :=
  events.filterMap fun event =>
    match event with
    | .integration _ => none
    | .autoSave event => some event

/-- The phases that one integration entered, in order. -/
def phasesOf (integration : Nat) (events : List Event) : List Integration.Phase :=
  ((integrationEvents events).filter fun event => event.integration == integration).filterMap
    Integration.Event.phase?

end Diagnostics

end FormEngine
