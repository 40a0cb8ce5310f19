import FormEngine.Proofs.Integration.Teardown

/-!
Workers that differ in nothing they decide by. A worker never looks at its own number, at the number
of its call or at the count of changes itself; what it goes by is told by its core. Workers with one
core that are shown the same take the same turns.
-/

namespace FormEngine.Integration

section Cores

/-- What a worker decides by: no number of its own, none of its call and no count of changes. -/
def Worker.core (worker : Worker) : Worker :=
  { worker with index := 0, receiver := ⟨0⟩, inFlight := worker.inFlight.map fun _ => 0 }

/-- An effect without the numbers of workers and calls. -/
def Effect.core : Effect → Effect
  | .record event => .record { event with integration := 0 }
  | .cancel _ => .cancel 0
  | .register path => .register path
  | .write path value => .write path value
  | .launch endpoint payload => .launch endpoint payload

def coreOf (turn : Worker × List Effect) : Worker × List Effect :=
  (turn.1.core, turn.2.map Effect.core)

theorem written_core (effects : List Effect) :
    written (effects.map Effect.core) = written effects := by
  induction effects with
  | nil => rfl
  | cons effect rest ih =>
      cases effect with
      | write path value => exact congrArg ((path, value) :: ·) ih
      | _ => exact ih

theorem launched_core (effects : List Effect) :
    launched (effects.map Effect.core) = launched effects := by
  induction effects with
  | nil => rfl
  | cons effect rest ih =>
      cases effect with
      | launch endpoint payload => exact congrArg ((endpoint, payload) :: ·) ih
      | _ => exact ih

theorem happenings_core (effects : List Effect) :
    (records (effects.map Effect.core)).map Event.happening =
      (records effects).map Event.happening := by
  induction effects with
  | nil => rfl
  | cons effect rest ih =>
      cases effect with
      | record event => exact congrArg (event.happening :: ·) ih
      | _ => exact ih

end Cores

section Pieces

theorem core_of_enter (phase : Phase) (turn : Worker × List Effect) :
    coreOf (Worker.enter phase turn) = Worker.enter phase (coreOf turn) := by
  have same : (coreOf turn).1.phase = turn.1.phase := rfl
  unfold Worker.enter
  rw [same]
  split
  · rfl
  · simp [coreOf, Worker.core, Worker.note, Effect.core]

theorem core_of_await (now : Nat) (turn : Worker × List Effect) :
    coreOf (Worker.await now turn) = Worker.await now (coreOf turn) := by
  have same : (coreOf turn).1.payload? = turn.1.payload? := rfl
  unfold Worker.await
  rw [same]
  split
  · rw [core_of_enter]
    rfl
  · rw [core_of_enter]
    rfl

theorem core_of_abandon (turn : Worker × List Effect) :
    coreOf (Worker.abandon turn) = Worker.abandon (coreOf turn) := by
  have same : (coreOf turn).1.inFlight = turn.1.inFlight.map fun _ => 0 := rfl
  unfold Worker.abandon
  rw [same]
  cases turn.1.inFlight with
  | none => rfl
  | some call =>
      rw [core_of_enter]
      simp [coreOf, Worker.core, Effect.core]

theorem core_registered (paths : List String) :
    (paths.map Effect.register).map Effect.core = paths.map Effect.register := by
  simp [Effect.core]

theorem core_writes (worker : Worker) (values : FormValues) :
    (worker.writes values).map Effect.core = worker.writes values := by
  rw [worker_writes]
  simp [Effect.core]

theorem core_of_settle (outcome : Lookup.Outcome) (worker : Worker) :
    coreOf (worker.settle outcome) = worker.core.settle outcome := by
  have fails : ∀ message, coreOf (worker.failWith message) = worker.core.failWith message := by
    intro message
    unfold Worker.failWith
    rw [core_of_enter]
    rfl
  cases outcome with
  | answered values =>
      cases values with
      | none => exact core_of_enter _ _
      | some values =>
          have written := core_writes worker values
          refine (core_of_enter _ _).trans ?_
          rw [coreOf, written]
          rfl
  | cancelled => exact core_of_enter _ _
  | failed message => exact fails message
  | crashed => exact fails _

end Pieces

/-- What two views show alike to a worker that reads these sources. -/
structure ShowAlike (sources : List String) (view other : View) : Prop where
  now : view.now = other.now
  shutdown : view.shutdown = other.shutdown
  watched : view.state.watch sources = other.state.watch sources
  allowlist : view.allowlist = other.allowlist
  outcome : view.outcome = other.outcome

section Turns

variable (view other : View) (worker fellow : Worker) (alike : worker.core = fellow.core)
  (shown : ShowAlike worker.integration.sources view other)

-- In each turn the numbers are only passed on, so the core of a turn is a turn of the core.
include alike shown

theorem start_alike : coreOf (worker.start view) = coreOf (fellow.start other) := by
  have started : ∀ (view : View) (worker : Worker), coreOf (worker.start view) =
      if worker.core.integration.sources.isEmpty then
        ({ worker.core with stage := .ended }, worker.core.paths.map Effect.register)
      else
        Worker.await view.now
          ({ worker.core with
              stage := .running
              observed := view.state.watch worker.core.integration.sources },
            worker.core.paths.map Effect.register) := by
    intro view worker
    unfold Worker.start
    dsimp only
    have same : worker.core.integration = worker.integration := rfl
    rw [same]
    split
    · exact congrArg _ (core_registered _)
    · rw [core_of_await]
      exact congrArg (fun effects => Worker.await view.now (_, effects)) (core_registered _)
  have integration : worker.core.integration = worker.integration := rfl
  rw [started, started, ← alike, integration, shown.now, shown.watched]

theorem notice_alike : coreOf (worker.notice view) = coreOf (fellow.notice other) := by
  have noticed : ∀ (view : View) (worker : Worker), coreOf (worker.notice view) =
      if view.state.watch worker.core.integration.sources = worker.core.observed then
        (worker.core, [])
      else
        Worker.await view.now (Worker.abandon
          ({ worker.core with
              observed := view.state.watch worker.core.integration.sources }, [])) := by
    intro view worker
    unfold Worker.notice
    dsimp only
    have same : worker.core.integration = worker.integration := rfl
    have seen : worker.core.observed = worker.observed := rfl
    rw [same, seen]
    split
    · rfl
    · rw [core_of_await, core_of_abandon]
      rfl
  have integration : worker.core.integration = worker.integration := rfl
  rw [noticed, noticed, ← alike, integration, shown.now, shown.watched]

omit shown alike in
theorem core_of_fire : coreOf (worker.fire view) =
    match worker.core.payload? with
    | none => Worker.enter .idle ({ worker.core with deadline := none }, [])
    | some payload =>
        if view.allowlist.allows worker.core.integration.endpoint then
          Worker.enter .inFlight ({ worker.core with deadline := none, inFlight := some 0 },
            [.launch worker.core.integration.endpoint payload])
        else Worker.enter .idle ({ worker.core with deadline := none },
          [worker.core.note .rejected]) := by
  unfold Worker.fire
  dsimp only
  have same : worker.core.payload? = worker.payload? := rfl
  have left : Worker.payload? { worker with deadline := none } = worker.payload? := rfl
  have integration : worker.core.integration = worker.integration := rfl
  rw [same, left, integration]
  cases worker.payload? with
  | none => exact core_of_enter _ _
  | some payload =>
      dsimp only
      split
      · exact core_of_enter _ _
      · exact core_of_enter _ _

theorem fire_alike : coreOf (worker.fire view) = coreOf (fellow.fire other) := by
  rw [core_of_fire, core_of_fire, alike, shown.allowlist]

theorem complete_alike (outcome : Lookup.Outcome) :
    coreOf (worker.complete view outcome) = coreOf (fellow.complete other outcome) := by
  have completed : ∀ (view : View) (worker : Worker), coreOf (worker.complete view outcome) =
      if view.shutdown then Worker.enter .aborted ({ worker.core with inFlight := none }, [])
      else Worker.enter .idle
        (Worker.settle outcome { worker.core with inFlight := none }) := by
    intro view worker
    unfold Worker.complete
    dsimp only
    split
    · exact core_of_enter _ _
    · rw [core_of_enter, core_of_settle]
      rfl
  rw [completed, completed, alike, shown.shutdown]

omit shown in
theorem stop_alike : coreOf worker.stop = coreOf fellow.stop := by
  have stopped : ∀ worker : Worker, coreOf worker.stop =
      ({ (Worker.abandon (worker.core, [])).1 with stage := .ended },
        (Worker.abandon (worker.core, [])).2) := by
    intro worker
    have abandoned := core_of_abandon (worker, [])
    unfold Worker.stop
    rw [show (worker.core, []) = coreOf (worker, []) from rfl, ← abandoned]
    rfl
  rw [stopped, stopped, alike]

/-- Workers with one core that are shown the same, unseen changes included, take the same turn. -/
theorem turn_alike
    (unseen : worker.stage = .running → view.shutdown = false →
      (worker.receiver.seen = view.state.changes ↔ fellow.receiver.seen = other.state.changes)) :
    (worker.turn? view).map coreOf = (fellow.turn? other).map coreOf := by
  have stage : fellow.stage = worker.stage := (congrArg Worker.stage alike).symm
  have deadline : fellow.deadline = worker.deadline :=
    (congrArg Worker.deadline alike).symm
  have underWay : fellow.inFlight.isSome = worker.inFlight.isSome := by
    have held := congrArg (fun core : Worker => core.inFlight.isSome) alike
    simpa [Worker.core] using held.symm
  unfold Worker.turn?
  rw [stage, deadline, underWay, ← shown.shutdown, ← shown.now, ← shown.outcome]
  cases now : worker.stage with
  | ended => rfl
  | waiting => exact congrArg some (start_alike view other worker fellow alike shown)
  | running =>
      dsimp only
      by_cases down : view.shutdown = true
      · simp only [down, ↓reduceIte]
        exact congrArg some (stop_alike worker fellow alike)
      · have live : view.shutdown = false := by simpa using down
        have agree := unseen now live
        rw [if_neg down, if_neg down]
        by_cases seen : worker.receiver.seen = view.state.changes
        · rw [if_neg (not_not_intro seen), if_neg (not_not_intro (agree.mp seen))]
          split
          · exact congrArg some (fire_alike view other worker fellow alike shown)
          · cases view.outcome with
            | none => rfl
            | some outcome =>
                dsimp only
                split
                · exact congrArg some (complete_alike view other worker fellow alike shown outcome)
                · rfl
        · rw [if_pos seen, if_pos (fun again => seen (agree.mpr again))]
          exact congrArg some (notice_alike view other worker fellow alike shown)

end Turns

end FormEngine.Integration
