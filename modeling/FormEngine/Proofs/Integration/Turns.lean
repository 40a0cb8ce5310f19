import FormEngine.Integration.Session

/-!
What one turn of a worker does. Records tell of a turn and decide nothing, so a turn is described by
the worker it leaves and by what it does outside beside recording.
-/

namespace FormEngine.Integration

section Deeds

/-- What a turn does outside the worker, records aside. -/
def deeds (effects : List Effect) : List Effect :=
  effects.filter fun effect =>
    match effect with
    | .record _ => false
    | _ => true

@[simp]
theorem deeds_nil : deeds [] = [] := rfl

@[simp]
theorem deeds_append (left right : List Effect) :
    deeds (left ++ right) = deeds left ++ deeds right :=
  List.filter_append ..

@[simp]
theorem deeds_note (worker : Worker) (happening : Happening) : deeds [worker.note happening] = [] :=
  rfl

@[simp]
theorem deeds_launch (endpoint : String) (payload : Payload) :
    deeds [.launch endpoint payload] = [.launch endpoint payload] := rfl

@[simp]
theorem deeds_registered (paths : List String) :
    deeds (paths.map Effect.register) = paths.map Effect.register := by
  simp [deeds, List.filter_eq_self]

@[simp]
theorem deeds_writes (worker : Worker) (values : FormValues) :
    deeds (worker.writes values) = worker.writes values := by
  apply List.filter_eq_self.mpr
  intro effect listed
  obtain ⟨target, _, found⟩ := List.mem_filterMap.mp listed
  obtain ⟨value, _, same⟩ := Option.map_eq_some_iff.mp found
  rw [← same]

end Deeds

section Records

/-- What a turn records, in order. -/
def records (effects : List Effect) : List Event :=
  effects.filterMap fun effect =>
    match effect with
    | .record event => some event
    | _ => none

@[simp]
theorem records_append (left right : List Effect) :
    records (left ++ right) = records left ++ records right :=
  List.filterMap_append ..

@[simp]
theorem records_registered (paths : List String) : records (paths.map Effect.register) = [] := by
  simp [records]

@[simp]
theorem records_writes (worker : Worker) (values : FormValues) :
    records (worker.writes values) = [] := by
  apply List.filterMap_eq_nil_iff.mpr
  intro effect listed
  obtain ⟨target, _, found⟩ := List.mem_filterMap.mp listed
  obtain ⟨value, _, same⟩ := Option.map_eq_some_iff.mp found
  rw [← same]

end Records

section Phases

@[simp]
theorem enter_worker (phase : Phase) (turn : Worker × List Effect) :
    (Worker.enter phase turn).1 = { turn.1 with phase } := by
  unfold Worker.enter
  split
  · rename_i same
    rw [← same]
  · rfl

@[simp]
theorem deeds_enter (phase : Phase) (turn : Worker × List Effect) :
    deeds (Worker.enter phase turn).2 = deeds turn.2 := by
  unfold Worker.enter
  split <;> simp

end Phases

namespace Worker

/-- The deadline of a worker that starts waiting now, if it has something to send. -/
def nextDeadline (now : Nat) (worker : Worker) : Option Nat :=
  if worker.payload?.isSome then some (now + worker.debounce) else none

/-- The phase of a worker that starts waiting, if it has something to send. -/
def nextPhase (worker : Worker) : Phase :=
  if worker.payload?.isSome then .debouncing else .idle

/-- The phase of a worker once its call is cancelled, if it has one. -/
def abandonedPhase (worker : Worker) : Phase :=
  if worker.inFlight.isSome then .aborted else worker.phase

def paths (worker : Worker) : List String :=
  worker.integration.sources ++ worker.integration.targets

/-- The cancellation of the call under way. -/
def cancellation (worker : Worker) : List Effect :=
  match worker.inFlight with
  | none => []
  | some call => [.cancel call]

/-- Only an answer that holds values is written. -/
def answerWrites (worker : Worker) : Lookup.Outcome → List Effect
  | .answered (some values) => worker.writes values
  | _ => []

end Worker

section Pieces

@[simp]
theorem await_worker (now : Nat) (turn : Worker × List Effect) :
    (Worker.await now turn).1 =
      { turn.1 with deadline := turn.1.nextDeadline now, phase := turn.1.nextPhase } := by
  unfold Worker.await Worker.nextDeadline Worker.nextPhase
  split <;> exact enter_worker _ _

@[simp]
theorem deeds_await (now : Nat) (turn : Worker × List Effect) :
    deeds (Worker.await now turn).2 = deeds turn.2 := by
  unfold Worker.await
  split <;> simp

@[simp]
theorem abandon_worker (turn : Worker × List Effect) :
    (Worker.abandon turn).1 =
      { turn.1 with inFlight := none, phase := turn.1.abandonedPhase } := by
  unfold Worker.abandon Worker.abandonedPhase
  cases held : turn.1.inFlight with
  | none =>
      change turn.1 = { turn.1 with inFlight := none, phase := turn.1.phase }
      rw [← held]
  | some call => simp

@[simp]
theorem deeds_abandon (turn : Worker × List Effect) :
    deeds (Worker.abandon turn).2 = deeds turn.2 ++ turn.1.cancellation := by
  unfold Worker.abandon Worker.cancellation
  cases turn.1.inFlight with
  | none => simp
  | some call =>
      rw [deeds_enter, deeds_append]
      rfl

theorem settle_worker (outcome : Lookup.Outcome) (worker : Worker) :
    ∃ phase, (worker.settle outcome).1 = { worker with phase } := by
  unfold Worker.settle Worker.failWith
  split <;> exact ⟨_, enter_worker _ _⟩

@[simp]
theorem deeds_settle (outcome : Lookup.Outcome) (worker : Worker) :
    deeds (worker.settle outcome).2 = worker.answerWrites outcome := by
  unfold Worker.settle Worker.failWith Worker.answerWrites
  split <;> simp

end Pieces

/-- The turns a worker can take, each with the worker it leaves and its deeds. -/
inductive Took (view : View) (worker : Worker) : Worker → List Effect → Prop where
  | retired (stage : worker.stage = .waiting) (empty : worker.integration.sources = []) :
      Took view worker { worker with stage := .ended } (worker.paths.map .register)
  | started (stage : worker.stage = .waiting)
      (filled : worker.integration.sources ≠ []) (next : Worker)
      (same : next = { worker with
        stage := .running, receiver := view.state.subscribe
        observed := view.state.watch worker.integration.sources }) :
      Took view worker
        { next with deadline := next.nextDeadline view.now, phase := next.nextPhase }
        (worker.paths.map .register)
  | stopped (stage : worker.stage = .running) (shutdown : view.shutdown = true) :
      Took view worker
        { worker with stage := .ended, inFlight := none, phase := worker.abandonedPhase }
        worker.cancellation
  | overlooked (stage : worker.stage = .running) (live : view.shutdown = false)
      (unseen : worker.receiver.seen ≠ view.state.changes)
      (unchanged : view.state.watch worker.integration.sources = worker.observed) :
      Took view worker { worker with receiver := view.state.subscribe } []
  | noticed (stage : worker.stage = .running) (live : view.shutdown = false)
      (unseen : worker.receiver.seen ≠ view.state.changes)
      (changed : view.state.watch worker.integration.sources ≠ worker.observed) (next : Worker)
      (same : next = { worker with
        receiver := view.state.subscribe, inFlight := none
        observed := view.state.watch worker.integration.sources }) :
      Took view worker
        { next with deadline := next.nextDeadline view.now, phase := next.nextPhase }
        worker.cancellation
  | launched (payload : Payload) (deadline : Nat) (stage : worker.stage = .running)
      (live : view.shutdown = false) (seen : worker.receiver.seen = view.state.changes)
      (waited : worker.deadline = some deadline) (due : deadline ≤ view.now)
      (complete : worker.payload? = some payload)
      (allowed : view.allowlist.allows worker.integration.endpoint = true) :
      Took view worker
        { worker with deadline := none, inFlight := some view.nextCall, phase := .inFlight }
        [.launch worker.integration.endpoint payload]
  | lapsed (deadline : Nat) (stage : worker.stage = .running)
      (live : view.shutdown = false) (seen : worker.receiver.seen = view.state.changes)
      (waited : worker.deadline = some deadline) (due : deadline ≤ view.now)
      (idle : worker.payload? = none ∨
        view.allowlist.allows worker.integration.endpoint = false) :
      Took view worker { worker with deadline := none, phase := .idle } []
  | completed (number : Nat) (outcome : Lookup.Outcome)
      (stage : worker.stage = .running) (live : view.shutdown = false)
      (seen : worker.receiver.seen = view.state.changes)
      (underWay : worker.inFlight = some number) (ended : view.outcome = some outcome) :
      Took view worker { worker with inFlight := none, phase := .idle }
        (worker.answerWrites outcome)

/-- What a worker does in its turn, of the things that could be next. -/
inductive Choice (view : View) (worker : Worker) : Worker × List Effect → Prop where
  | start (stage : worker.stage = .waiting) : Choice view worker (worker.start view)
  | stop (stage : worker.stage = .running) (shutdown : view.shutdown = true) :
      Choice view worker worker.stop
  | notice (stage : worker.stage = .running) (live : view.shutdown = false)
      (unseen : worker.receiver.seen ≠ view.state.changes) :
      Choice view worker (worker.notice view)
  | fire (deadline : Nat) (stage : worker.stage = .running) (live : view.shutdown = false)
      (seen : worker.receiver.seen = view.state.changes)
      (waited : worker.deadline = some deadline) (due : deadline ≤ view.now) :
      Choice view worker (worker.fire view)
  | complete (number : Nat) (outcome : Lookup.Outcome) (stage : worker.stage = .running)
      (live : view.shutdown = false) (seen : worker.receiver.seen = view.state.changes)
      (underWay : worker.inFlight = some number) (ended : view.outcome = some outcome) :
      Choice view worker (worker.complete view outcome)

section Turns

variable (view : View) (worker : Worker)

theorem turn_choice (taken : Worker × List Effect) (turn : worker.turn? view = some taken) :
    Choice view worker taken := by
  unfold Worker.turn? at turn
  cases stage : worker.stage with
  | ended => simp [stage] at turn
  | waiting =>
      simp only [stage] at turn
      obtain rfl := Option.some.inj turn
      exact .start stage
  | running =>
      simp only [stage] at turn
      split at turn
      · rename_i shutdown
        obtain rfl := Option.some.inj turn
        exact .stop stage shutdown
      · rename_i live
        have live : view.shutdown = false := by simpa using live
        split at turn
        · rename_i unseen
          obtain rfl := Option.some.inj turn
          exact .notice stage live unseen
        · rename_i seen
          have seen : worker.receiver.seen = view.state.changes := by simpa using seen
          split at turn
          · rename_i due
            obtain ⟨deadline, waited, due⟩ := (Option.any_eq_true _ _).mp due
            obtain rfl := Option.some.inj turn
            exact .fire deadline stage live seen waited (by simpa using due)
          · cases ended : view.outcome with
            | none => simp [ended] at turn
            | some outcome =>
                cases underWay : worker.inFlight with
                | none => simp [ended, underWay] at turn
                | some number =>
                    simp only [ended, underWay, Option.isSome_some, ↓reduceIte] at turn
                    obtain rfl := Option.some.inj turn
                    exact .complete number outcome stage live seen underWay ended

theorem start_took (stage : worker.stage = .waiting) :
    Took view worker (worker.start view).1 (deeds (worker.start view).2) := by
  unfold Worker.start
  by_cases empty : worker.integration.sources = []
  · have took : Took view worker { worker with stage := .ended } (worker.paths.map .register) :=
      .retired stage empty
    simpa [empty, Worker.paths] using took
  · simp only [List.isEmpty_iff, empty, ↓reduceIte, await_worker, deeds_await, deeds_registered]
    exact .started stage empty _ rfl

theorem stop_took (stage : worker.stage = .running) (shutdown : view.shutdown = true) :
    Took view worker worker.stop.1 (deeds worker.stop.2) := by
  unfold Worker.stop
  simp only [abandon_worker, deeds_abandon]
  exact .stopped stage shutdown

theorem notice_took (stage : worker.stage = .running) (live : view.shutdown = false)
    (unseen : worker.receiver.seen ≠ view.state.changes) :
    Took view worker (worker.notice view).1 (deeds (worker.notice view).2) := by
  unfold Worker.notice
  by_cases unchanged : view.state.watch worker.integration.sources = worker.observed
  · simp only [unchanged, ↓reduceIte, deeds_nil]
    exact .overlooked stage live unseen unchanged
  · simp only [unchanged, ↓reduceIte, await_worker, abandon_worker, deeds_await, deeds_abandon]
    exact .noticed stage live unseen unchanged _ rfl

theorem fire_took (deadline : Nat) (stage : worker.stage = .running) (live : view.shutdown = false)
    (seen : worker.receiver.seen = view.state.changes)
    (waited : worker.deadline = some deadline) (due : deadline ≤ view.now) :
    Took view worker (worker.fire view).1 (deeds (worker.fire view).2) := by
  have same : Worker.payload? { worker with deadline := none } = worker.payload? := rfl
  unfold Worker.fire
  dsimp only
  rw [same]
  cases complete : worker.payload? with
  | none => simpa using Took.lapsed deadline stage live seen waited due (Or.inl complete)
  | some payload =>
      by_cases allowed : view.allowlist.allows worker.integration.endpoint = true
      · simpa [allowed] using
          Took.launched payload deadline stage live seen waited due complete allowed
      · have refused : view.allowlist.allows worker.integration.endpoint = false := by
          simpa using allowed
        simpa [refused] using Took.lapsed deadline stage live seen waited due (Or.inr refused)

theorem complete_took (number : Nat) (outcome : Lookup.Outcome) (stage : worker.stage = .running)
    (live : view.shutdown = false) (seen : worker.receiver.seen = view.state.changes)
    (underWay : worker.inFlight = some number) (ended : view.outcome = some outcome) :
    Took view worker (worker.complete view outcome).1 (deeds (worker.complete view outcome).2) := by
  obtain ⟨_, left⟩ := settle_worker outcome { worker with inFlight := none }
  unfold Worker.complete
  simp only [live, Bool.false_eq_true, ↓reduceIte, enter_worker, left, deeds_enter, deeds_settle]
  exact .completed number outcome stage live seen underWay ended

/-- Every turn is one of these. -/
theorem turn_took (next : Worker) (effects : List Effect)
    (turn : worker.turn? view = some (next, effects)) : Took view worker next (deeds effects) := by
  generalize together : (next, effects) = taken at turn
  have named : Took view worker taken.1 (deeds taken.2) := by
    cases turn_choice view worker taken turn with
    | start stage => exact start_took view worker stage
    | stop stage shutdown => exact stop_took view worker stage shutdown
    | notice stage live unseen => exact notice_took view worker stage live unseen
    | fire deadline stage live seen waited due =>
        exact fire_took view worker deadline stage live seen waited due
    | complete number outcome stage live seen underWay ended =>
        exact complete_took view worker number outcome stage live seen underWay ended
  rw [← together] at named
  exact named

end Turns

end FormEngine.Integration
