import FormEngine.Proofs.Integration.Turns

/-!
What the deeds of a turn do to a session. They touch its state and its calls, each on its own, and
nothing but its record of events besides.
-/

namespace FormEngine.Integration

namespace Effect

def onState (state : FormState) : Effect → FormState
  | .register path => state.register path
  | .write path value => state.setValue path value
  | _ => state

def onCalls (calls : List Lookup.Call) : Effect → List Lookup.Call
  | .launch endpoint payload => calls ++ [Lookup.Call.create endpoint payload]
  | .cancel number => calls.modify number fun call => { call with cancelled := true }
  | _ => calls

end Effect

theorem perform_effects (effects : List Effect) (session : Session) :
    effects.foldl Session.perform session =
      { session with
        state := (deeds effects).foldl Effect.onState session.state
        calls := (deeds effects).foldl Effect.onCalls session.calls
        events := session.events ++ records effects } := by
  induction effects generalizing session with
  | nil => simp [records]
  | cons effect rest ih =>
      rw [List.foldl_cons, ih]
      cases effect with
      | record event => simp [Session.perform, deeds, records]
      | _ => rfl

theorem perform_all (effects : List Effect) (session : Session) :
    ∃ events, effects.foldl Session.perform session =
      { session with
        state := (deeds effects).foldl Effect.onState session.state
        calls := (deeds effects).foldl Effect.onCalls session.calls
        events } :=
  ⟨_, perform_effects effects session⟩

/-- A turn of the worker at a position, seen from the session. -/
theorem worker_turn_effects (setup : Setup) (position : Nat) (session next : Session)
    (turn : session.workerTurn? setup position = some next) :
    ∃ worker after effects, session.workers[position]? = some worker ∧
      worker.turn? (session.viewOf setup worker) = some (after, effects) ∧
      next = { session with
        workers := session.workers.set position after
        state := (deeds effects).foldl Effect.onState session.state
        calls := (deeds effects).foldl Effect.onCalls session.calls
        events := session.events ++ records effects } := by
  unfold Session.workerTurn? at turn
  obtain ⟨worker, found, turn⟩ := Option.bind_eq_some_iff.mp turn
  obtain ⟨⟨after, effects⟩, took, same⟩ := Option.bind_eq_some_iff.mp turn
  exact ⟨worker, after, effects, found, took,
    (Option.some.inj same).symm.trans (perform_effects effects _)⟩

-- Records decide nothing, so most of the time they are left open.
theorem worker_turn (setup : Setup) (position : Nat) (session next : Session)
    (turn : session.workerTurn? setup position = some next) :
    ∃ worker after acts events, session.workers[position]? = some worker ∧
      Took (session.viewOf setup worker) worker after acts ∧
      next = { session with
        workers := session.workers.set position after
        state := acts.foldl Effect.onState session.state
        calls := acts.foldl Effect.onCalls session.calls
        events } := by
  obtain ⟨worker, after, effects, found, took, same⟩ :=
    worker_turn_effects setup position session next turn
  exact ⟨worker, after, deeds effects, _, found, turn_took _ worker after effects took, same⟩

section State

/-- A later state: the count of changes only grows, and as long as it stands still so do the
values. -/
def Advances (before after : FormState) : Prop :=
  before.changes ≤ after.changes ∧
    (after.changes = before.changes → after.values = before.values)

theorem advances_refl (state : FormState) : Advances state state := ⟨Nat.le_refl _, fun _ => rfl⟩

theorem advances_trans (first second third : FormState) (left : Advances first second)
    (right : Advances second third) : Advances first third := by
  refine ⟨Nat.le_trans left.1 right.1, fun same => ?_⟩
  have middle : second.changes = first.changes := Nat.le_antisymm (same ▸ right.1) left.1
  exact (right.2 (same.trans middle.symm)).trans (left.2 middle)

theorem advances_set (path : String) (value : FormValue) (state : FormState) :
    Advances state (state.setValue path value) := by
  unfold FormState.setValue
  split
  · exact advances_refl state
  · exact ⟨Nat.le_succ _, fun same => absurd same (Nat.succ_ne_self _)⟩

theorem advances_reset (values : FormValues) (state : FormState) :
    Advances state (state.reset values) := by
  unfold FormState.reset
  split
  · exact advances_refl state
  · exact ⟨Nat.le_succ _, fun same => absurd same (Nat.succ_ne_self _)⟩

theorem advances_acts (acts : List Effect) (state : FormState) :
    Advances state (acts.foldl Effect.onState state) := by
  induction acts generalizing state with
  | nil => exact advances_refl state
  | cons act rest ih =>
      refine advances_trans state (Effect.onState state act) _ ?_ (ih _)
      cases act with
      | register path => exact ⟨Nat.le_refl _, fun _ => rfl⟩
      | write path value => exact advances_set path value state
      | _ => exact advances_refl state

end State

section Calls

theorem calls_registered (paths : List String) (calls : List Lookup.Call) :
    (paths.map Effect.register).foldl Effect.onCalls calls = calls := by
  induction paths with
  | nil => rfl
  | cons path rest ih => exact ih

theorem calls_written (worker : Worker) (outcome : Lookup.Outcome) (calls : List Lookup.Call) :
    (worker.answerWrites outcome).foldl Effect.onCalls calls = calls := by
  unfold Worker.answerWrites
  split
  · unfold Worker.writes
    generalize worker.integration.targets = targets
    induction targets with
    | nil => rfl
    | cons target rest ih =>
        rename_i values
        cases found : Keyed.find? (Path.lastSegment target) values <;>
          simpa [found, Effect.onCalls] using ih
  · rfl

theorem state_cancelled (worker : Worker) (state : FormState) :
    worker.cancellation.foldl Effect.onState state = state := by
  unfold Worker.cancellation
  split <;> rfl

theorem state_registered (paths : List String) (state : FormState) :
    ((paths.map Effect.register).foldl Effect.onState state).values = state.values ∧
      ((paths.map Effect.register).foldl Effect.onState state).changes = state.changes := by
  induction paths generalizing state with
  | nil => exact ⟨rfl, rfl⟩
  | cons path rest ih => exact ih (state.register path)

end Calls

end FormEngine.Integration
