import FormEngine.Proofs.Integration.Alone

/-!
A worker among others and the same worker alone. Where the sources hold the same and calls have ended
alike, the two decide alike: they have the same turn to take, and are alike again after it.
-/

namespace FormEngine.Integration

/-- How the call of a worker ended, if it has one and that has ended. -/
def Session.outcomeOf (session : Session) (worker : Worker) : Option Lookup.Outcome :=
  worker.inFlight.bind fun number => (session.calls[number]?).bind Lookup.Call.outcome

/-- The worker at a position and the only worker of another session decide alike on what is the same
for both. -/
structure Mirrors (position : Nat) (session solo : Session) (worker fellow : Worker) : Prop where
  found : session.workers[position]? = some worker
  there : solo.workers[0]? = some fellow
  core : worker.core = fellow.core
  now : session.now = solo.now
  shutdown : session.shutdown = solo.shutdown
  sources : ∀ source ∈ worker.integration.sources,
    session.state.values.source source = solo.state.values.source source
  outcome : session.outcomeOf worker = solo.outcomeOf fellow

section Alike

variable (setup : Setup) (position : Nat) (session solo : Session) (worker fellow : Worker)
  (mirrors : Mirrors position session solo worker fellow)

include mirrors

theorem mirrors_integration : fellow.integration = worker.integration :=
  (congrArg Worker.integration mirrors.core).symm

theorem mirrors_shown :
    ShowAlike worker.integration.sources (session.viewOf setup worker)
      (solo.viewOf setup fellow) where
  now := mirrors.now
  shutdown := mirrors.shutdown
  watched := List.map_congr_left mirrors.sources
  allowlist := rfl
  outcome := mirrors.outcome

/-- Where the worker alone has looked does not matter, only what it has seen. -/
theorem mirrors_glanced :
    ∃ after, Mirrors position session (solo.glanced setup) worker after ∧
      after.overlooks ((solo.glanced setup).viewOf setup after) = false := by
  obtain ⟨receiver, there, attentive⟩ := glanced_worker setup solo fellow mirrors.there
  obtain ⟨shutdown, state, calls⟩ := glanced_kept setup solo
  have outcome : (solo.glanced setup).outcomeOf { fellow with receiver } =
      solo.outcomeOf fellow := by
    simp only [Session.outcomeOf, calls]
  exact ⟨{ fellow with receiver },
    { found := mirrors.found
      there
      core := mirrors.core
      now := mirrors.now.trans (glanced_now setup solo).symm
      shutdown := mirrors.shutdown.trans shutdown.symm
      sources := by
        rw [state]
        exact mirrors.sources
      outcome := mirrors.outcome.trans outcome.symm },
    attentive⟩

end Alike

section Turns

variable (setup : Setup) (position : Nat) (session : Session) (worker : Worker)

-- A worker that overlooks nothing has seen the last change if and only if nothing changed for it.
theorem attentive_seen (running : worker.stage = .running) (live : session.shutdown = false)
    (attends : Attends setup session worker)
    (attentive : worker.overlooks (session.viewOf setup worker) = false) :
    worker.receiver.seen = session.state.changes ↔
      session.state.watch worker.integration.sources = worker.observed := by
  constructor
  · intro seen
    exact (attends.fresh seen).symm
  · intro same
    apply Classical.byContradiction
    intro unseen
    have overlooks : worker.overlooks (session.viewOf setup worker) = true :=
      (overlooks_iff _ worker).mpr ⟨running, live, unseen, same⟩
    simp [attentive] at overlooks

/-- After a turn that is more than a look, a worker has no answer to collect. -/
theorem acted_outcome (turn : Worker × List Effect) (orderly : Orderly session position worker)
    (found : session.workers[position]? = some worker)
    (attentive : worker.overlooks (session.viewOf setup worker) = false)
    (taken : session.turnAt setup position = some turn) :
    (session.carry position turn).outcomeOf turn.1 = none := by
  rw [turn_at setup position session worker found] at taken
  have took := turn_took _ worker turn.1 turn.2 taken
  rw [carry_eq]
  unfold Session.outcomeOf
  generalize turn.1 = after at took
  generalize deeds turn.2 = acts at took
  cases took with
  | retired stage => simp [(orderly.idle stage).2.2]
  | started stage _ waiting same => simp [same, (orderly.idle stage).2.2]
  | stopped => rfl
  | overlooked stage live unseen unchanged =>
      have overlooks := (overlooks_iff _ worker).mpr ⟨stage, live, unseen, unchanged⟩
      simp [attentive] at overlooks
  | noticed _ _ _ _ waiting same => simp [same]
  | launched => simp [Effect.onCalls, Session.viewOf, Lookup.Call.create]
  | lapsed deadline stage _ _ waited =>
      obtain ⟨phase, holds⟩ := orderly.held stage
      have waiting := holds_waiting worker phase holds (by rw [waited]; rfl)
      simp [waiting.2.2.1]
  | completed => rfl

/-- Nobody's turn ends a call. -/
theorem outcome_kept (after : Worker) (acts : List Effect)
    (took : Took (session.viewOf setup worker) worker after acts) (next : Session)
    (calls : next.calls = acts.foldl Effect.onCalls session.calls) (number : Nat)
    (known : number < session.calls.length) :
    (next.calls[number]?).bind Lookup.Call.outcome =
      (session.calls[number]?).bind Lookup.Call.outcome := by
  rcases took_calls setup session worker after acts took with
    same | ⟨cancelled, _, modified⟩ | ⟨payload, _, added⟩
  · rw [calls, same]
  · rw [calls, modified, List.getElem?_modify]
    cases session.calls[number]? with
    | none => rfl
    | some call => by_cases here : cancelled = number <;> simp [here]
  · rw [calls, added, List.getElem?_append_left known]

end Turns

section Moves

variable (setup : Setup) (position : Nat) (session solo : Session) (worker fellow : Worker)
  (mirrors : Mirrors position session solo worker fellow)

include mirrors

/-- If neither has something to overlook, worker and mirror have the same turn to take. -/
theorem mirrors_turn (attends : worker.stage = .running → Attends setup session worker)
    (mindful : fellow.stage = .running → Attends setup solo fellow)
    (attentive : worker.overlooks (session.viewOf setup worker) = false)
    (awake : fellow.overlooks (solo.viewOf setup fellow) = false) :
    (session.turnAt setup position).map coreOf = (solo.turnAt setup 0).map coreOf := by
  have integration := mirrors_integration position session solo worker fellow mirrors
  have shown := mirrors_shown setup position session solo worker fellow mirrors
  rw [turn_at setup position session worker mirrors.found, turn_at setup 0 solo fellow mirrors.there]
  apply turn_alike _ _ worker fellow mirrors.core shown
  intro running live
  have runs : fellow.stage = .running := (congrArg Worker.stage mirrors.core).symm.trans running
  have observed : fellow.observed = worker.observed :=
    (congrArg Worker.observed mirrors.core).symm
  have watched : session.state.watch worker.integration.sources =
      solo.state.watch worker.integration.sources := shown.watched
  have seen := attentive_seen setup session worker running live (attends running) attentive
  have noticed := attentive_seen setup solo fellow runs (mirrors.shutdown.symm.trans live)
    (mindful runs) awake
  rw [integration, observed, ← watched] at noticed
  exact seen.trans noticed.symm

theorem mirrors_carry (turn other : Worker × List Effect) (same : coreOf turn = coreOf other)
    (runs : turn.1.integration = worker.integration)
    (ended : (session.carry position turn).outcomeOf turn.1 = none)
    (done : (solo.carry 0 other).outcomeOf other.1 = none) :
    Mirrors position (session.carry position turn) (solo.carry 0 other) turn.1 other.1 := by
  have wrote : written (deeds turn.2) = written (deeds other.2) := by
    have effects : turn.2.map Effect.core = other.2.map Effect.core := congrArg Prod.snd same
    rw [written_deeds, written_deeds, ← written_core turn.2, effects, written_core]
  have kept : ∀ (writes : List (String × FormValue)) (left right : FormState) (source : String),
      left.values.source source = right.values.source source →
      (writeAll writes left).values.source source =
        (writeAll writes right).values.source source := by
    intro writes
    induction writes with
    | nil => exact fun _ _ _ alike => alike
    | cons entry rest ih =>
        intro left right source alike
        exact ih _ _ source (FormState.source_set_alike entry.1 source entry.2 left right alike)
  have inside := (List.getElem?_eq_some_iff.mp mirrors.found).1
  have first := (List.getElem?_eq_some_iff.mp mirrors.there).1
  refine ⟨?_, ?_, congrArg Prod.fst same, ?_, ?_, ?_, ended.trans done.symm⟩
  · simp [carry_eq, inside]
  · simp [carry_eq, first]
  · rw [carry_now, carry_now]
    exact mirrors.now
  · rw [carry_eq, carry_eq]
    exact mirrors.shutdown
  · intro source read
    rw [runs] at read
    have left := performed_writes (deeds turn.2) session.state session.state ⟨rfl, rfl⟩
    have right := performed_writes (deeds other.2) solo.state solo.state ⟨rfl, rfl⟩
    rw [carry_eq, carry_eq]
    dsimp only
    rw [left.1, right.1, wrote]
    exact kept _ _ _ source (mirrors.sources source read)

end Moves

end FormEngine.Integration
