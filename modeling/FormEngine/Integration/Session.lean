import FormEngine.Integration.Worker

/-!
A session with integrations on a virtual clock. The clock moves only while the host sleeps. At each
instant every worker and every call takes turns until none has anything left to do; then the clock
jumps to the next deadline or to the end of a call, and past the last of these to the end of the
sleep. What falls due at the very end of a sleep happens at the start of the next.
-/

namespace FormEngine.Integration

structure Setup where
  allowlist : Lookup.Allowlist
  remote : Lookup.Remote

structure Session where
  now : Nat
  state : FormState
  shutdown : Bool
  workers : List Worker
  calls : List Lookup.Call
  events : List Event

namespace Session

def create (values : FormValues) (fallback : Nat)
    (integrations : List FormEngine.Integration) : Session :=
  { now := 0, state := FormState.create values, shutdown := false
    workers := integrations.zipIdx.map fun entry => Worker.create entry.2 fallback entry.1
    calls := [], events := [] }

section Turns

def perform (session : Session) (effect : Effect) : Session :=
  match effect with
  | .register path => { session with state := session.state.register path }
  | .write path value => { session with state := session.state.setValue path value }
  | .launch endpoint payload =>
      { session with calls := session.calls ++ [Lookup.Call.create endpoint payload] }
  | .cancel call =>
      { session with
        calls := session.calls.modify call fun call => { call with cancelled := true } }
  | .record event => { session with events := session.events ++ [event] }

def viewOf (setup : Setup) (session : Session) (worker : Worker) : View :=
  { now := session.now, shutdown := session.shutdown, state := session.state
    allowlist := setup.allowlist, nextCall := session.calls.length
    outcome := worker.inFlight.bind fun call =>
      (session.calls[call]?).bind Lookup.Call.outcome }

/-- One turn of the worker at a position, if it has one. -/
def workerTurn? (setup : Setup) (position : Nat) (session : Session) : Option Session := do
  let worker ← session.workers[position]?
  let (next, effects) ← worker.turn? (session.viewOf setup worker)
  some (effects.foldl perform { session with workers := session.workers.set position next })

def begunCalls (session : Session) : Nat :=
  session.calls.countP fun call => call.begun.isSome

def callTurn? (setup : Setup) (position : Nat) (session : Session) : Option Session := do
  let call ← session.calls[position]?
  let next ← call.advance? setup.remote session.now session.begunCalls
    (call.cancelled || session.shutdown)
  some { session with calls := session.calls.set position next }

/-- The first turn that somebody can take: workers before calls, each in order. -/
def turn? (setup : Setup) (session : Session) : Option Session :=
  ((List.range session.workers.length).findSome? fun position =>
    session.workerTurn? setup position).or
    ((List.range session.calls.length).findSome? fun position =>
      session.callTurn? setup position)

def settle (setup : Setup) : Nat → Session → Session
  | 0, session => session
  | fuel + 1, session =>
      match session.turn? setup with
      | some next => settle setup fuel next
      | none => session

/-- An instant has no more turns than this. -/
def turnLimit : Nat := 100000

end Turns

section Clock

def dueTimes (session : Session) : List Nat :=
  (session.workers.filterMap fun worker =>
    if worker.stage = .running then worker.deadline else none) ++
  (session.calls.filterMap fun call =>
    if call.outcome.isNone then call.due else none)

/-- The first due time after now and before the end of the sleep. -/
def nextDue? (finish : Nat) (session : Session) : Option Nat :=
  (session.dueTimes.filter fun due => session.now < due && due < finish).min?

def sleepUntil (setup : Setup) (finish : Nat) : Nat → Session → Session
  | 0, session => { session with now := finish }
  | fuel + 1, session =>
      let session := session.settle setup turnLimit
      match session.nextDue? finish with
      | some due => sleepUntil setup finish fuel { session with now := due }
      | none => { session with now := finish }

def sleep (setup : Setup) (duration : Nat) (session : Session) : Session :=
  if duration = 0 then session
  else session.sleepUntil setup (session.now + duration) turnLimit

end Clock

section Host

def setValue (path : String) (value : FormValue) (session : Session) : Session :=
  { session with state := session.state.setValue path value }

def reset (values : FormValues) (session : Session) : Session :=
  { session with state := session.state.reset values }

def cancelAll (session : Session) : Session := { session with shutdown := true }

/-- Waits for all workers to end. -/
def join (setup : Setup) (session : Session) : Session :=
  session.cancelAll.settle setup turnLimit

/-- Workers end where they are. -/
def discard (session : Session) : Session :=
  { session.cancelAll with
    workers := session.workers.map fun worker => { worker with stage := .ended } }

end Host

section Reports

def calledSoFar (session : Session) : Nat := session.begunCalls

def stoppedSoFar (session : Session) : Nat :=
  session.calls.countP fun call => call.stopped

/-- Calls are told apart by endpoint first, then by payload, entry by entry. -/
def callKey (call : Lookup.Call) : List String :=
  call.endpoint :: call.payload.flatMap fun entry => [entry.1, entry.2]

def textsInOrder : List String → List String → Bool
  | [], _ => true
  | _ :: _, [] => false
  | left :: lefts, right :: rights =>
      if left = right then textsInOrder lefts rights else left < right

/-- The calls that have begun with the times when they did, earliest first; those of one instant in
the order of their keys. -/
def reportedCalls (session : Session) : List (Nat × Lookup.Call) :=
  (session.calls.filterMap fun call => call.begun.map fun time => (time, call)).mergeSort
    fun left right =>
      left.1 < right.1 || (left.1 == right.1 && textsInOrder (callKey left.2) (callKey right.2))

def eventsOf (integration : Nat) (session : Session) : List Event :=
  session.events.filter fun event => event.integration == integration

def phasesOf (integration : Nat) (session : Session) : List Phase :=
  (session.eventsOf integration).filterMap Event.phase?

end Reports

end Session

end FormEngine.Integration
