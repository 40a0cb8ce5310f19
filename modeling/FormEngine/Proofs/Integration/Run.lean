import FormEngine.Proofs.Integration.Deeds

/-!
Runs of a session in which everything may happen in any order: the host writes and tears down, the
clock moves, workers take turns and the remote side answers calls whenever and however it likes. The
runs that the clock of a session drives are among them.
-/

namespace FormEngine.Integration

inductive Move where
  | write (path : String) (value : FormValue)
  | reset (values : FormValues)
  | elapse (later : Nat)
  | cancelAll
  | discard
  | work (position : Nat)
  | answer (position : Nat) (call : Lookup.Call)

/-- Workers and calls take turns; the other moves come from outside. -/
def Move.isTurn : Move → Bool
  | .work _ => true
  | .answer .. => true
  | _ => false

/-- One call in two conditions; only how it goes on remotely may differ. -/
def SameRequest (before after : Lookup.Call) : Prop :=
  after.endpoint = before.endpoint ∧ after.payload = before.payload ∧
    after.cancelled = before.cancelled

inductive Step (setup : Setup) (session : Session) : Move → Session → Prop where
  | write (path : String) (value : FormValue) :
      Step setup session (.write path value) (session.setValue path value)
  | reset (values : FormValues) : Step setup session (.reset values) (session.reset values)
  | elapse (later : Nat) (forward : session.now ≤ later) :
      Step setup session (.elapse later) { session with now := later }
  | cancelAll : Step setup session .cancelAll session.cancelAll
  | discard : Step setup session .discard session.discard
  | work (position : Nat) (next : Session)
      (turn : session.workerTurn? setup position = some next) :
      Step setup session (.work position) next
  -- An answered call stays answered; one that is not may be answered or only begin.
  | answer (position : Nat) (call after : Lookup.Call)
      (known : session.calls[position]? = some call) (live : call.outcome = none)
      (same : SameRequest call after) :
      Step setup session (.answer position after)
        { session with calls := session.calls.set position after }

inductive Reachable (setup : Setup) (first : Session) : Session → Prop where
  | start : Reachable setup first first
  | step (session next : Session) (move : Move) (reached : Reachable setup first session)
      (step : Step setup session move next) : Reachable setup first next

-- The clock and the host of a session, as the program drives them.
section Driven

variable (setup : Setup) (first : Session)

theorem advance_same (remote : Lookup.Remote) (now turn : Nat) (cancelled : Bool)
    (call next : Lookup.Call) (advanced : call.advance? remote now turn cancelled = some next) :
    call.outcome = none ∧ SameRequest call next := by
  unfold Lookup.Call.advance? at advanced
  split at advanced
  · simp at advanced
  · rename_i live
    refine ⟨by simpa using live, ?_⟩
    split at advanced
    · split at advanced
      · cases advanced
        exact ⟨rfl, rfl, rfl⟩
      · split at advanced <;> cases advanced <;> exact ⟨rfl, rfl, rfl⟩
    · split at advanced
      · cases advanced
        exact ⟨rfl, rfl, rfl⟩
      · split at advanced <;> cases advanced
        exact ⟨rfl, rfl, rfl⟩

theorem call_step (session next : Session) (position : Nat)
    (turn : session.callTurn? setup position = some next) :
    next.now = session.now ∧ ∃ move, move.isTurn = true ∧ Step setup session move next := by
  obtain ⟨call, known, turn⟩ := Option.bind_eq_some_iff.mp turn
  obtain ⟨after, advanced, same⟩ := Option.bind_eq_some_iff.mp turn
  obtain ⟨live, request⟩ := advance_same _ _ _ _ call after advanced
  obtain rfl := Option.some.inj same
  exact ⟨rfl, .answer position after, rfl, .answer position call after known live request⟩

theorem turn_step (session next : Session) (turn : session.turn? setup = some next) :
    next.now = session.now ∧ ∃ move, move.isTurn = true ∧ Step setup session move next := by
  rcases Option.or_eq_some_iff.mp turn with worked | ⟨_, called⟩
  · obtain ⟨position, _, turn⟩ := List.exists_of_findSome?_eq_some worked
    obtain ⟨_, _, _, _, _, _, same⟩ := worker_turn setup position session next turn
    exact ⟨by rw [same], .work position, rfl, .work position next turn⟩
  · obtain ⟨position, _, turn⟩ := List.exists_of_findSome?_eq_some called
    exact call_step setup session next position turn

theorem settle_reachable (fuel : Nat) (session : Session)
    (reached : Reachable setup first session) :
    Reachable setup first (session.settle setup fuel) ∧
      (session.settle setup fuel).now = session.now := by
  induction fuel generalizing session with
  | zero => exact ⟨reached, rfl⟩
  | succ fuel ih =>
      unfold Session.settle
      split
      · rename_i next turn
        obtain ⟨still, move, _, step⟩ := turn_step setup session next turn
        obtain ⟨later, same⟩ := ih next (.step session next move reached step)
        exact ⟨later, same.trans still⟩
      · exact ⟨reached, rfl⟩

theorem next_due_between (finish due : Nat) (session : Session)
    (next : session.nextDue? finish = some due) : session.now < due ∧ due < finish := by
  have listed := List.min?_mem next
  simpa using (List.mem_filter.mp listed).2

theorem sleep_until_reachable (finish fuel : Nat) (session : Session)
    (reached : Reachable setup first session) (ahead : session.now ≤ finish) :
    Reachable setup first (session.sleepUntil setup finish fuel) := by
  induction fuel generalizing session with
  | zero => exact .step session _ (.elapse finish) reached (.elapse finish ahead)
  | succ fuel ih =>
      obtain ⟨settled, same⟩ := settle_reachable setup first Session.turnLimit session reached
      unfold Session.sleepUntil
      dsimp only
      split
      · rename_i due next
        obtain ⟨later, earlier⟩ := next_due_between finish due _ next
        exact ih _ (.step _ _ (.elapse due) settled (.elapse due (Nat.le_of_lt later)))
          (Nat.le_of_lt earlier)
      · exact .step _ _ (.elapse finish) settled (.elapse finish (by rw [same]; exact ahead))

theorem sleep_reachable (duration : Nat) (session : Session)
    (reached : Reachable setup first session) :
    Reachable setup first (session.sleep setup duration) := by
  unfold Session.sleep
  split
  · exact reached
  · exact sleep_until_reachable setup first _ _ session reached (Nat.le_add_right _ _)

theorem join_reachable (session : Session) (reached : Reachable setup first session) :
    Reachable setup first (session.join setup) :=
  (settle_reachable setup first _ _
    (.step session session.cancelAll .cancelAll reached .cancelAll)).1

end Driven

end FormEngine.Integration
