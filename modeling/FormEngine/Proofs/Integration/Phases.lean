import FormEngine.Proofs.Integration.Consistency

/-!
The phases of a worker, and what it holds in them. Between turns a running worker rests with
nothing, waits with a deadline and something to send, or has a call under way; the other phases are
left again in the turn that enters them. A turn records each phase it enters, so the events of a
session tell a walk along the phases.
-/

namespace FormEngine.Integration

/-- The phases for which a phase may be left. -/
def Phase.next : Phase → List Phase
  | .idle => [.debouncing]
  | .debouncing => [.inFlight, .idle]
  | .inFlight => [.applied, .aborted, .failed]
  | .applied => [.idle]
  | .failed => [.idle]
  | .aborted => [.idle, .debouncing]

def Follows (before after : Phase) : Prop := after ∈ before.next

section Walks

/-- Phases entered one after another, from the one at the start to the one at the end. -/
inductive Walk (first : Phase) : List Phase → Phase → Prop where
  | stay : Walk first [] first
  | enter (phases : List Phase) (last next : Phase) (walk : Walk first phases last)
      (follows : Follows last next) : Walk first (phases ++ [next]) next

theorem walk_trans (first middle last : Phase) (left right : List Phase)
    (walk : Walk first left middle) (rest : Walk middle right last) :
    Walk first (left ++ right) last := by
  induction rest with
  | stay => simpa using walk
  | enter phases before next _ follows ih =>
      rw [← List.append_assoc]
      exact .enter (left ++ phases) before next ih follows

end Walks

section Holdings

/-- What a worker has between its turns, in the phases in which it may be there. -/
def Worker.Holds (worker : Worker) : Phase → Prop
  | .idle => worker.phase = .idle ∧ worker.deadline = none ∧ worker.inFlight = none
  | .debouncing =>
      worker.phase = .debouncing ∧ worker.deadline.isSome = true ∧ worker.inFlight = none ∧
        worker.payload?.isSome = true
  | .inFlight =>
      worker.phase = .inFlight ∧ worker.deadline = none ∧ worker.inFlight.isSome = true
  | _ => False

variable (worker : Worker)

theorem holds_phase (phase : Phase) (holds : worker.Holds phase) : worker.phase = phase := by
  cases phase with
  | applied => exact holds.elim
  | aborted => exact holds.elim
  | failed => exact holds.elim
  | _ => exact holds.1

theorem holds_unique (phase other : Phase) (holds : worker.Holds phase)
    (held : worker.Holds other) : other = phase :=
  (holds_phase worker other held).symm.trans (holds_phase worker phase holds)

theorem holds_waiting (phase : Phase) (holds : worker.Holds phase)
    (waits : worker.deadline.isSome = true) : worker.Holds .debouncing := by
  cases phase with
  | idle => simp [holds.2.1] at waits
  | inFlight => simp [holds.2.1] at waits
  | debouncing => exact holds
  | _ => exact holds.elim

theorem holds_calling (phase : Phase) (holds : worker.Holds phase)
    (underWay : worker.inFlight.isSome = true) : worker.Holds .inFlight := by
  cases phase with
  | idle => simp [holds.2.2] at underWay
  | debouncing => simp [holds.2.2.1] at underWay
  | inFlight => exact holds
  | _ => exact holds.elim

-- A worker without a call waits if it has something to send, and rests otherwise.
theorem awaiting_holds (now : Nat) (free : worker.inFlight = none) :
    Worker.Holds
      { worker with deadline := worker.nextDeadline now, phase := worker.nextPhase }
      worker.nextPhase := by
  unfold Worker.nextPhase Worker.nextDeadline
  split
  · rename_i ready
    exact ⟨rfl, rfl, free, ready⟩
  · exact ⟨rfl, rfl, free⟩

/-- A turn leaves a worker that still runs with what its phase asks for. -/
theorem took_holds (view : View) (after : Worker) (acts : List Effect)
    (took : Took view worker after acts)
    (idle : worker.stage = .waiting → worker.Holds .idle)
    (held : worker.stage = .running → ∃ phase, worker.Holds phase)
    (runs : after.stage = .running) : ∃ phase, after.Holds phase := by
  cases took with
  | retired => simp at runs
  | stopped => simp at runs
  | started stage filled waiting same =>
      have free : waiting.inFlight = none := by
        rw [same]
        exact (idle stage).2.2
      exact ⟨_, awaiting_holds waiting view.now free⟩
  | overlooked stage =>
      obtain ⟨phase, holds⟩ := held stage
      refine ⟨phase, ?_⟩
      cases phase <;> exact holds
  | noticed stage live unseen changed waiting same =>
      have free : waiting.inFlight = none := by rw [same]
      exact ⟨_, awaiting_holds waiting view.now free⟩
  | launched => exact ⟨.inFlight, rfl, rfl, rfl⟩
  | lapsed deadline stage live seen waited =>
      obtain ⟨phase, holds⟩ := held stage
      have waiting := holds_waiting worker phase holds (by rw [waited]; rfl)
      exact ⟨.idle, rfl, rfl, waiting.2.2.1⟩
  | completed number outcome stage live seen underWay =>
      obtain ⟨phase, holds⟩ := held stage
      have calling := holds_calling worker phase holds (by rw [underWay]; rfl)
      exact ⟨.idle, rfl, calling.2.1, rfl⟩

end Holdings

section Traces

/-- The phases that a turn records, in order. -/
def entered (effects : List Effect) : List Phase := (records effects).filterMap Event.phase?

/-- A turn of a worker so far: it records in the name of the worker, and the phases it records lead
to the one it is in. -/
structure Traced (worker : Worker) (turn : Worker × List Effect) : Prop where
  index : turn.1.index = worker.index
  own : ∀ event ∈ records turn.2, event.integration = worker.index
  walk : Walk worker.phase (entered turn.2) turn.1.phase

variable (worker : Worker) (turn : Worker × List Effect)

theorem traced_begin : Traced worker (worker, []) :=
  ⟨rfl, fun event listed => by simp [records] at listed, Walk.stay⟩

-- Whatever else a turn does or records, only a phase entered is a part of the walk.
theorem traced_more (next : Worker × List Effect) (traced : Traced worker turn)
    (index : next.1.index = turn.1.index) (phase : next.1.phase = turn.1.phase)
    (added : List Event) (recorded : records next.2 = records turn.2 ++ added)
    (own : ∀ event ∈ added, event.integration = worker.index ∧ event.phase? = none) :
    Traced worker next := by
  have quiet : added.filterMap Event.phase? = [] :=
    List.filterMap_eq_nil_iff.mpr fun event listed => (own event listed).2
  constructor
  case index => exact index.trans traced.index
  case own =>
    intro event listed
    rw [recorded] at listed
    rcases List.mem_append.mp listed with before | here
    · exact traced.own event before
    · exact (own event here).1
  case walk =>
    have same : entered next.2 = entered turn.2 := by
      simp [entered, recorded, quiet]
    rw [same, phase]
    exact traced.walk

theorem traced_same (next : Worker × List Effect) (traced : Traced worker turn)
    (index : next.1.index = turn.1.index) (phase : next.1.phase = turn.1.phase)
    (recorded : records next.2 = records turn.2) : Traced worker next :=
  traced_more worker turn next traced index phase [] (by simp [recorded]) (by simp)

theorem traced_enter (phase : Phase) (traced : Traced worker turn)
    (follows : turn.1.phase ≠ phase → Follows turn.1.phase phase) :
    Traced worker (Worker.enter phase turn) := by
  unfold Worker.enter
  split
  · exact traced
  · rename_i different
    constructor
    case index => exact traced.index
    case own =>
      intro event listed
      rw [records_append] at listed
      rcases List.mem_append.mp listed with before | here
      · exact traced.own event before
      · obtain rfl := List.mem_singleton.mp here
        exact traced.index
    case walk =>
      have same : entered (turn.2 ++ [Worker.note (.entered phase) { turn.1 with phase }]) =
          entered turn.2 ++ [phase] := by
        unfold entered
        rw [records_append, List.filterMap_append]
        rfl
      rw [same]
      exact .enter _ _ phase traced.walk (follows different)

theorem traced_await (now : Nat) (traced : Traced worker turn)
    (between : turn.1.phase = .idle ∨ turn.1.phase = .debouncing ∨ turn.1.phase = .aborted) :
    Traced worker (Worker.await now turn) := by
  unfold Worker.await
  split
  · refine traced_enter worker _ .debouncing (traced_same worker turn _ traced rfl rfl rfl) ?_
    rcases between with here | here | here <;> simp [here, Follows, Phase.next]
  · refine traced_enter worker _ .idle (traced_same worker turn _ traced rfl rfl rfl) ?_
    rcases between with here | here | here <;> simp [here, Follows, Phase.next]

theorem traced_abandon (traced : Traced worker turn)
    (calling : turn.1.inFlight.isSome = true → turn.1.phase = .inFlight) :
    Traced worker (Worker.abandon turn) := by
  unfold Worker.abandon
  split
  · exact traced
  · rename_i call held
    have phase : turn.1.phase = .inFlight := calling (by rw [held]; rfl)
    refine traced_enter worker _ .aborted (traced_same worker turn _ traced rfl rfl ?_) ?_
    · rw [records_append]
      exact List.append_nil _
    · intro _
      simp [phase, Follows, Phase.next]

variable (left : Worker) (begun : Traced worker (left, [])) (calling : left.phase = .inFlight)

include begun calling

theorem traced_fail (message : String) :
    Traced worker (left.failWith message) ∧ Follows (left.failWith message).1.phase .idle := by
  unfold Worker.failWith
  constructor
  · refine traced_enter worker _ .failed ?_ fun _ => by simp [calling, Follows, Phase.next]
    refine traced_more worker _ _ begun rfl rfl [_] rfl ?_
    intro event listed
    obtain rfl := List.mem_singleton.mp listed
    exact ⟨begun.index, rfl⟩
  · simp [Follows, Phase.next]

theorem traced_settle (outcome : Lookup.Outcome) :
    Traced worker (left.settle outcome) ∧ Follows (left.settle outcome).1.phase .idle := by
  have follows : ∀ phase ∈ [Phase.applied, .aborted], left.phase ≠ phase →
      Follows left.phase phase := by
    intro phase listed _
    simp only [List.mem_cons, List.not_mem_nil, or_false] at listed
    rcases listed with rfl | rfl <;> simp [calling, Follows, Phase.next]
  unfold Worker.settle
  split
  · exact ⟨traced_enter worker _ .applied begun (follows .applied (by simp)), by
      simp [Follows, Phase.next]⟩
  · rename_i values
    have written : Traced worker (left, left.writes values) :=
      traced_same worker _ _ begun rfl rfl (records_writes left values)
    exact ⟨traced_enter worker _ .applied written (follows .applied (by simp)), by
      simp [Follows, Phase.next]⟩
  · exact ⟨traced_enter worker _ .aborted begun (follows .aborted (by simp)), by
      simp [Follows, Phase.next]⟩
  · exact traced_fail worker left begun calling _
  · exact traced_fail worker left begun calling _

end Traces

section Turns

variable (view : View) (worker : Worker)

theorem start_traced (idle : worker.phase = .idle) : Traced worker (worker.start view) := by
  unfold Worker.start
  dsimp only
  split
  · exact traced_same worker _ _ (traced_begin worker) rfl rfl (records_registered _)
  · refine traced_await worker _ view.now ?_ (Or.inl idle)
    exact traced_same worker _ _ (traced_begin worker) rfl rfl (records_registered _)

variable (phase : Phase) (holds : worker.Holds phase)

include holds

theorem stop_traced : Traced worker worker.stop := by
  have abandoned := traced_abandon worker _ (traced_begin worker) fun underWay =>
    (holds_calling worker phase holds underWay).1
  exact traced_same worker _ _ abandoned rfl rfl rfl

theorem notice_traced : Traced worker (worker.notice view) := by
  unfold Worker.notice
  dsimp only
  split
  · exact traced_same worker _ _ (traced_begin worker) rfl rfl rfl
  · refine traced_await worker _ view.now (traced_abandon worker _ ?_ fun underWay =>
      (holds_calling worker phase holds underWay).1) ?_
    · exact traced_same worker _ _ (traced_begin worker) rfl rfl rfl
    · rw [abandon_worker]
      unfold Worker.abandonedPhase
      cases phase with
      | idle => simp [holds.1, holds.2.2]
      | debouncing => simp [holds.1, holds.2.2.1]
      | inFlight => simp [holds.2.2]
      | _ => exact holds.elim

theorem fire_traced (waits : worker.deadline.isSome = true) : Traced worker (worker.fire view) := by
  have debouncing : worker.phase = .debouncing := (holds_waiting worker phase holds waits).1
  have begun : Traced worker ({ worker with deadline := none }, []) :=
    traced_same worker _ _ (traced_begin worker) rfl rfl rfl
  unfold Worker.fire
  dsimp only
  split
  · exact traced_enter worker _ .idle begun fun _ => by simp [debouncing, Follows, Phase.next]
  · split
    · refine traced_enter worker _ .inFlight (traced_same worker _ _ begun rfl rfl rfl) ?_
      simp [debouncing, Follows, Phase.next]
    · refine traced_enter worker _ .idle (traced_more worker _ _ begun rfl rfl [_] rfl ?_) ?_
      · intro event listed
        obtain rfl := List.mem_singleton.mp listed
        exact ⟨rfl, rfl⟩
      · simp [debouncing, Follows, Phase.next]

theorem complete_traced (outcome : Lookup.Outcome) (underWay : worker.inFlight.isSome = true) :
    Traced worker (worker.complete view outcome) := by
  have calling : worker.phase = .inFlight := (holds_calling worker phase holds underWay).1
  have begun : Traced worker ({ worker with inFlight := none }, []) :=
    traced_same worker _ _ (traced_begin worker) rfl rfl rfl
  unfold Worker.complete
  dsimp only
  split
  · exact traced_enter worker _ .aborted begun fun _ => by simp [calling, Follows, Phase.next]
  · obtain ⟨settled, follows⟩ := traced_settle worker _ begun calling outcome
    exact traced_enter worker _ .idle settled fun _ => follows

omit holds

/-- What a turn records leads from the phase of the worker to the phase after the turn. -/
theorem turn_traced (taken : Worker × List Effect) (turn : worker.turn? view = some taken)
    (idle : worker.stage = .waiting → worker.Holds .idle)
    (held : worker.stage = .running → ∃ phase, worker.Holds phase) : Traced worker taken := by
  cases turn_choice view worker taken turn with
  | start stage => exact start_traced view worker (idle stage).1
  | stop stage =>
      obtain ⟨phase, holds⟩ := held stage
      exact stop_traced worker phase holds
  | notice stage =>
      obtain ⟨phase, holds⟩ := held stage
      exact notice_traced view worker phase holds
  | fire deadline stage live seen waited =>
      obtain ⟨phase, holds⟩ := held stage
      exact fire_traced view worker phase holds (by rw [waited]; rfl)
  | complete number outcome stage live seen underWay =>
      obtain ⟨phase, holds⟩ := held stage
      exact complete_traced view worker phase holds outcome (by rw [underWay]; rfl)

end Turns

end FormEngine.Integration
