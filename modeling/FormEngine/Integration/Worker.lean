import FormEngine.Diagnostics.Event
import FormEngine.Lookup.Remote
import FormEngine.Session.State

/-!
The worker of one integration. It waits until its source values have been left alone for the
debounce delay, sends them to the endpoint and writes the answer into the target fields. A change of
the sources abandons whatever was under way.

A worker takes one turn at a time. A turn looks at the session, changes the worker and lists what it
does to the session; of the things that could be next, a shutdown comes before a change, a change
before a deadline and a deadline before the end of a call.
-/

namespace FormEngine.Integration

/-- What a turn does outside the worker, in order. -/
inductive Effect where
  | register (path : String)
  | write (path : String) (value : FormValue)
  | launch (endpoint : String) (payload : Payload)
  | cancel (call : Nat)
  | record (event : Event)

inductive Stage where
  | waiting
  | running
  | ended
  deriving DecidableEq

structure Worker where
  index : Nat
  integration : FormEngine.Integration
  debounce : Nat
  stage : Stage
  phase : Phase
  receiver : Receiver
  -- The source values seen last.
  observed : List (Option FormValue)
  deadline : Option Nat
  -- The number of the call under way.
  inFlight : Option Nat

/-- What a worker sees of the session. -/
structure View where
  now : Nat
  shutdown : Bool
  state : FormState
  allowlist : Lookup.Allowlist
  -- The number that the next call will get.
  nextCall : Nat
  -- How the call under way ended, if it has.
  outcome : Option Lookup.Outcome

namespace Worker

def create (index : Nat) (fallback : Nat) (integration : FormEngine.Integration) : Worker :=
  { index, integration, debounce := integration.effectiveDebounce fallback
    stage := .waiting, phase := .idle, receiver := ⟨0⟩, observed := []
    deadline := none, inFlight := none }

/-- The payload for the source values seen last, once all of them are there. -/
def payload? (worker : Worker) : Option Payload :=
  Payload.build? worker.integration.sources worker.observed

section Phases

def note (happening : Happening) (worker : Worker) : Effect :=
  .record ⟨worker.index, worker.integration.endpoint, happening⟩

/-- Only a change of phase is recorded. -/
def enter (phase : Phase) (turn : Worker × List Effect) : Worker × List Effect :=
  if turn.1.phase = phase then turn
  else
    let worker := { turn.1 with phase }
    (worker, turn.2 ++ [worker.note (.entered phase)])

end Phases

section Turns

/-- Starts waiting if there is something to send, and gives up waiting otherwise. -/
def await (now : Nat) (turn : Worker × List Effect) : Worker × List Effect :=
  if turn.1.payload?.isSome then
    enter .debouncing ({ turn.1 with deadline := some (now + turn.1.debounce) }, turn.2)
  else enter .idle ({ turn.1 with deadline := none }, turn.2)

/-- Without sources there is nothing to wait for. -/
def start (view : View) (worker : Worker) : Worker × List Effect :=
  let paths := worker.integration.sources ++ worker.integration.targets
  let registered := paths.map Effect.register
  if worker.integration.sources.isEmpty then ({ worker with stage := .ended }, registered)
  else
    await view.now
      ({ worker with
          stage := .running
          receiver := view.state.subscribe
          observed := view.state.watch worker.integration.sources }, registered)

/-- Cancels the call under way, if there is one. -/
def abandon (turn : Worker × List Effect) : Worker × List Effect :=
  match turn.1.inFlight with
  | none => turn
  | some call => enter .aborted ({ turn.1 with inFlight := none }, turn.2 ++ [.cancel call])

def stop (worker : Worker) : Worker × List Effect :=
  let (worker, effects) := abandon (worker, [])
  ({ worker with stage := .ended }, effects)

/-- Only a change of the sources counts. -/
def notice (view : View) (worker : Worker) : Worker × List Effect :=
  let current := view.state.watch worker.integration.sources
  let worker := { worker with receiver := view.state.subscribe }
  if current = worker.observed then (worker, [])
  else await view.now (abandon ({ worker with observed := current }, []))

/-- The delay is over: an endpoint that is not allowed is never called. -/
def fire (view : View) (worker : Worker) : Worker × List Effect :=
  let worker := { worker with deadline := none }
  match worker.payload? with
  | none => enter .idle (worker, [])
  | some payload =>
      if view.allowlist.allows worker.integration.endpoint then
        enter .inFlight ({ worker with inFlight := some view.nextCall },
          [.launch worker.integration.endpoint payload])
      else enter .idle (worker, [worker.note .rejected])

/-- The writes of an answer: one for each target whose last segment it names. -/
def writes (worker : Worker) (values : FormValues) : List Effect :=
  worker.integration.targets.filterMap fun target =>
    (Keyed.find? (Path.lastSegment target) values).map fun value => .write target value

def failWith (message : String) (worker : Worker) : Worker × List Effect :=
  enter .failed (worker, [worker.note (.failed message)])

def settle (outcome : Lookup.Outcome) (worker : Worker) : Worker × List Effect :=
  match outcome with
  | .answered none => enter .applied (worker, [])
  | .answered (some values) => enter .applied (worker, worker.writes values)
  | .cancelled => enter .aborted (worker, [])
  | .failed message => worker.failWith message
  | .crashed => worker.failWith "<panic>"

/-- The call under way has ended. -/
def complete (view : View) (outcome : Lookup.Outcome) (worker : Worker) :
    Worker × List Effect :=
  let worker := { worker with inFlight := none }
  if view.shutdown then enter .aborted (worker, [])
  else enter .idle (worker.settle outcome)

def turn? (view : View) (worker : Worker) : Option (Worker × List Effect) :=
  match worker.stage with
  | .ended => none
  | .waiting => some (worker.start view)
  | .running =>
      if view.shutdown then some worker.stop
      else if worker.receiver.seen ≠ view.state.changes then some (worker.notice view)
      else if worker.deadline.any fun deadline => deadline ≤ view.now then
        some (worker.fire view)
      else
        match view.outcome with
        | some outcome =>
            if worker.inFlight.isSome then some (worker.complete view outcome) else none
        | none => none

end Turns

end Worker

end FormEngine.Integration
