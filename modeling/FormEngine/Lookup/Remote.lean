import FormEngine.Lookup.Endpoint

/-!
Remote look-ups: how one may end, and what a call does as time passes. A call waits for its latency
and then gives its answer. A call whose token is cancelled stops at once, unless it ignores
cancellation.
-/

namespace FormEngine.Lookup

inductive Outcome where
  | answered (values : Option FormValues)
  | failed (message : String)
  | cancelled
  | crashed
  deriving DecidableEq

/-- The text for an outcome that is an error. -/
def Outcome.message? : Outcome → Option String
  | .answered _ => none
  | .failed message => some ("remote call failed: " ++ message)
  | .cancelled => some "remote call cancelled"
  | .crashed => some "<panic>"

/-- What a call gives in the end. -/
inductive Reply where
  | tables
  | fixed (outcome : Outcome)

/-- The side that answers calls: the tables at once or after a delay, or prepared replies, one for
each call in turn, of which the last one is used again. -/
structure Remote where
  latency : Nat
  replies : Option (List Reply)
  ignoresCancel : Bool

namespace Remote

def tables (latency : Nat) : Remote := ⟨latency, none, false⟩

def replyTo (remote : Remote) (turn : Nat) : Reply :=
  match remote.replies with
  | none => .tables
  | some replies => (replies[min turn (replies.length - 1)]?).getD .tables

def Reply.outcome (reply : Reply) (endpoint : String) (payload : Payload) : Outcome :=
  match reply with
  | .tables => .answered (answer endpoint payload)
  | .fixed outcome => outcome

end Remote

/-- A call under way: `due` is when its latency is over, once it has begun. -/
structure Call where
  endpoint : String
  payload : Payload
  cancelled : Bool
  due : Option Nat
  begun : Option Nat
  reply : Reply
  outcome : Option Outcome
  -- Whether it ended because it saw its cancellation.
  stopped : Bool

namespace Call

def create (endpoint : String) (payload : Payload) : Call :=
  { endpoint, payload, cancelled := false, due := none, begun := none, reply := .tables
    outcome := none, stopped := false }

def stop (call : Call) : Call := { call with outcome := some .cancelled, stopped := true }

def finish (call : Call) : Call :=
  { call with outcome := some (Remote.Reply.outcome call.reply call.endpoint call.payload) }

/-- One step of a call, if it can take one. `turn` is the number of calls that began before it, and
`cancelled` whether its token is cancelled by now. -/
def advance? (remote : Remote) (now turn : Nat) (cancelled : Bool) (call : Call) : Option Call :=
  if call.outcome.isSome then none
  else
    match call.due with
    | none =>
        let begun := { call with
          due := some (now + remote.latency), begun := some now, reply := remote.replyTo turn }
        if cancelled && !remote.ignoresCancel then some begun.stop
        else if remote.latency = 0 then some begun.finish
        else some begun
    | some due =>
        if cancelled && !remote.ignoresCancel then some call.stop
        else if due ≤ now then some call.finish
        else none

end Call

/-- A single call on its own, with the time at which it ends. A cancellation counts if it comes
before the end of the latency, or at the very start. -/
def runCall (remote : Remote) (endpoint : String) (payload : Payload) (cancelAt : Option Nat) :
    Nat × Outcome :=
  let answered := Remote.Reply.outcome (remote.replyTo 0) endpoint payload
  match cancelAt with
  | none => (remote.latency, answered)
  | some time =>
      if time = 0 ∨ time < remote.latency then (time, .cancelled) else (remote.latency, answered)

end FormEngine.Lookup
