import FormEngine.Proofs.Integration.Run

/-!
What holds of every session that a run can reach. A worker without unseen changes has seen the
values that are there now, and the call it has under way is its own: nobody else cancels it, and it
was launched for the values seen last.
-/

namespace FormEngine.Integration

variable (setup : Setup)

/-- A call that is under way for a worker, and may still be applied. -/
structure Owned (worker : Worker) (call : Lookup.Call) : Prop where
  live : call.cancelled = false
  endpoint : call.endpoint = worker.integration.endpoint
  allowed : setup.allowlist.allows worker.integration.endpoint = true
  payload : worker.payload? = some call.payload

/-- What a running worker can rely on. -/
structure Attends (session : Session) (worker : Worker) : Prop where
  behind : worker.receiver.seen ≤ session.state.changes
  fresh : worker.receiver.seen = session.state.changes →
    worker.observed = session.state.watch worker.integration.sources
  owned : ∀ number, worker.inFlight = some number →
    ∃ call, session.calls[number]? = some call ∧ Owned setup worker call

structure Consistent (session : Session) : Prop where
  running : ∀ (position : Nat) (worker : Worker), session.workers[position]? = some worker →
    worker.stage = .running → Attends setup session worker
  waiting : ∀ (position : Nat) (worker : Worker), session.workers[position]? = some worker →
    worker.stage = .waiting → worker.inFlight = none
  known : ∀ (position : Nat) (worker : Worker) (number : Nat),
    session.workers[position]? = some worker → worker.inFlight = some number →
    number < session.calls.length
  apart : ∀ (position other : Nat) (worker rival : Worker) (number : Nat), position ≠ other →
    session.workers[position]? = some worker → session.workers[other]? = some rival →
    worker.inFlight = some number → rival.inFlight ≠ some number

theorem create_consistent (values : FormValues) (fallback : Nat)
    (integrations : List FormEngine.Integration) :
    Consistent setup (Session.create values fallback integrations) := by
  have created : ∀ (position : Nat) (worker : Worker),
      (Session.create values fallback integrations).workers[position]? = some worker →
      worker.stage = .waiting ∧ worker.inFlight = none := by
    intro position worker found
    obtain ⟨entry, _, rfl⟩ := List.mem_map.mp (List.mem_of_getElem? found)
    exact ⟨rfl, rfl⟩
  exact {
    running := fun position worker found stage => by
      simp [(created position worker found).1] at stage
    waiting := fun position worker found _ => (created position worker found).2
    known := fun position worker number found held => by
      simp [(created position worker found).2] at held
    apart := fun position _ worker _ number _ found _ held => by
      simp [(created position worker found).2] at held }

section Others

variable (session next : Session)

/-- The calls of a session live on in another: nobody forgets one or takes it back. -/
def KeepsCall (number : Nat) : Prop :=
  ∀ call, session.calls[number]? = some call →
    ∃ after, next.calls[number]? = some after ∧ SameRequest call after

-- A worker relies on the state and on its own call, and neither changes behind its back.
theorem attends_later (worker : Worker) (attends : Attends setup session worker)
    (advances : Advances session.state next.state)
    (keeps : ∀ number, worker.inFlight = some number → KeepsCall session next number) :
    Attends setup next worker := by
  refine ⟨Nat.le_trans attends.behind advances.1, ?_, ?_⟩
  · intro seen
    have still : next.state.changes = session.state.changes :=
      Nat.le_antisymm (seen ▸ attends.behind) advances.1
    have watched := attends.fresh (seen.trans still)
    rw [watched]
    simp only [FormState.watch, advances.2 still]
  · intro number held
    obtain ⟨call, known, owned⟩ := attends.owned number held
    obtain ⟨after, found, endpoint, payload, cancelled⟩ := keeps number held call known
    exact ⟨after, found, cancelled.trans owned.live, endpoint.trans owned.endpoint, owned.allowed,
      by rw [owned.payload, payload]⟩

theorem consistent_later (consistent : Consistent setup session)
    (workers : next.workers = session.workers) (advances : Advances session.state next.state)
    (keeps : ∀ number, KeepsCall session next number) : Consistent setup next := by
  constructor
  case running =>
    intro position worker found stage
    rw [workers] at found
    exact attends_later setup session next worker (consistent.running position worker found stage)
      advances fun number _ => keeps number
  case waiting =>
    intro position worker found stage
    exact consistent.waiting position worker (workers ▸ found) stage
  case known =>
    intro position worker number found held
    have listed := consistent.known position worker number (workers ▸ found) held
    obtain ⟨_, after, _⟩ := keeps number _ (List.getElem?_eq_getElem listed)
    exact (List.getElem?_eq_some_iff.mp after).1
  case apart =>
    intro position other worker rival number different found against
    exact consistent.apart position other worker rival number different (workers ▸ found)
      (workers ▸ against)

theorem keeps_same (calls : next.calls = session.calls) (number : Nat) :
    KeepsCall session next number := by
  intro call known
  exact ⟨call, calls ▸ known, rfl, rfl, rfl⟩

theorem keeps_answered (position number : Nat) (call after : Lookup.Call)
    (known : session.calls[position]? = some call) (same : SameRequest call after) :
    KeepsCall session { session with calls := session.calls.set position after } number := by
  intro other found
  by_cases here : position = number
  · subst here
    obtain rfl := Option.some.inj (known.symm.trans found)
    have inside := (List.getElem?_eq_some_iff.mp known).1
    exact ⟨after, by simp [inside], same⟩
  · exact ⟨other, by simpa [here] using found, rfl, rfl, rfl⟩

theorem discard_worker (position : Nat) (worker : Worker)
    (found : session.discard.workers[position]? = some worker) :
    ∃ before, session.workers[position]? = some before ∧
      worker = { before with stage := .ended } := by
  obtain ⟨before, listed, rfl⟩ := Option.map_eq_some_iff.mp
    ((List.getElem?_map ..).symm.trans found)
  exact ⟨before, listed, rfl⟩

theorem discard_consistent (consistent : Consistent setup session) :
    Consistent setup session.discard := by
  constructor
  case running =>
    intro position worker found stage
    obtain ⟨before, _, rfl⟩ := discard_worker session position worker found
    simp at stage
  case waiting =>
    intro position worker found stage
    obtain ⟨before, _, rfl⟩ := discard_worker session position worker found
    simp at stage
  case known =>
    intro position worker number found held
    obtain ⟨before, listed, rfl⟩ := discard_worker session position worker found
    exact consistent.known position before number listed held
  case apart =>
    intro position other worker rival number different found against held
    obtain ⟨before, listed, rfl⟩ := discard_worker session position worker found
    obtain ⟨opponent, opposed, rfl⟩ := discard_worker session other rival against
    exact consistent.apart position other before opponent number different listed opposed held

end Others

section Work

variable (session : Session) (worker after : Worker) (acts : List Effect)
  (took : Took (session.viewOf setup worker) worker after acts)

include took

/-- A turn adds a call, cancels its own or leaves the calls alone. -/
theorem took_calls :
    acts.foldl Effect.onCalls session.calls = session.calls ∨
    (∃ number, worker.inFlight = some number ∧ acts.foldl Effect.onCalls session.calls =
      session.calls.modify number fun call => { call with cancelled := true }) ∨
    (∃ payload, after.inFlight = some session.calls.length ∧
      acts.foldl Effect.onCalls session.calls =
        session.calls ++ [Lookup.Call.create worker.integration.endpoint payload]) := by
  have cancelled : worker.cancellation.foldl Effect.onCalls session.calls = session.calls ∨
      ∃ number, worker.inFlight = some number ∧
        worker.cancellation.foldl Effect.onCalls session.calls =
          session.calls.modify number fun call => { call with cancelled := true } := by
    unfold Worker.cancellation
    cases held : worker.inFlight with
    | none => exact Or.inl rfl
    | some number => exact Or.inr ⟨number, rfl, rfl⟩
  cases took with
  | retired => exact Or.inl (calls_registered _ _)
  | started => exact Or.inl (calls_registered _ _)
  | stopped => exact cancelled.imp_right Or.inl
  | overlooked => exact Or.inl rfl
  | noticed => exact cancelled.imp_right Or.inl
  | launched payload => exact Or.inr (Or.inr ⟨payload, rfl, rfl⟩)
  | lapsed => exact Or.inl rfl
  | completed => exact Or.inl (calls_written _ _ _)

-- No call is forgotten, so numbers that were known stay known.
theorem took_more :
    session.calls.length ≤ (acts.foldl Effect.onCalls session.calls).length := by
  rcases took_calls setup session worker after acts took with
    still | ⟨_, _, cancelled⟩ | ⟨_, _, added⟩
  · exact Nat.le_of_eq (by rw [still])
  · exact Nat.le_of_eq (by rw [cancelled, List.length_modify])
  · rw [added, List.length_append]
    exact Nat.le_add_right _ _

theorem took_begun : after.stage ≠ .waiting := by
  intro waiting
  cases took with
  | started _ _ _ same => simp [same] at waiting
  | noticed stage _ _ _ _ same => simp [same, stage] at waiting
  | retired => simp at waiting
  | stopped => simp at waiting
  | _ => simp_all

theorem took_keeps (next : Session)
    (calls : next.calls = acts.foldl Effect.onCalls session.calls) (number : Nat)
    (others : worker.inFlight ≠ some number) : KeepsCall session next number := by
  intro call known
  have inside := (List.getElem?_eq_some_iff.mp known).1
  rcases took_calls setup session worker after acts took with
    same | ⟨own, held, cancelled⟩ | ⟨payload, _, added⟩
  · exact keeps_same session next (calls.trans same) number call known
  · have different : own ≠ number := by
      rintro rfl
      exact others held
    refine ⟨call, ?_, rfl, rfl, rfl⟩
    rw [calls, cancelled]
    simp [different, known]
  · refine ⟨call, ?_, rfl, rfl, rfl⟩
    rw [calls, added, List.getElem?_append_left inside, known]

-- The number of a call under way is an old one of the worker or that of a call just launched.
theorem took_number (number : Nat) (held : after.inFlight = some number) :
    worker.inFlight = some number ∨
      (number = session.calls.length ∧
        number < (acts.foldl Effect.onCalls session.calls).length) := by
  cases took with
  | retired => exact Or.inl held
  | started _ _ _ same => exact Or.inl (by simpa [same] using held)
  | stopped => simp at held
  | overlooked => exact Or.inl held
  | noticed _ _ _ _ _ same => simp [same] at held
  | launched =>
      obtain rfl := Option.some.inj held
      exact Or.inr ⟨rfl, by simp [Effect.onCalls, Session.viewOf]⟩
  | lapsed => exact Or.inl held
  | completed => simp at held

theorem took_attends (next : Session)
    (attends : worker.stage = .running → Attends setup session worker)
    (waits : worker.stage = .waiting → worker.inFlight = none)
    (state : next.state = acts.foldl Effect.onState session.state)
    (calls : next.calls = acts.foldl Effect.onCalls session.calls)
    (running : after.stage = .running) : Attends setup next after := by
  cases took with
  | retired => simp at running
  | stopped => simp at running
  | started stage filled waiting same =>
      obtain ⟨values, changes⟩ := state_registered worker.paths session.state
      rw [← state] at values changes
      subst same
      exact {
        behind := by simp [FormState.subscribe, Session.viewOf, changes]
        fresh := fun _ => by simp only [FormState.watch, values, Session.viewOf]
        owned := fun number held => by simp [waits stage] at held }
  | overlooked stage live unseen unchanged =>
      obtain ⟨_, _, owned⟩ := attends stage
      exact {
        behind := by simp [state, FormState.subscribe, Session.viewOf]
        fresh := fun _ => by rw [state]; exact unchanged.symm
        owned := fun number held => by
          obtain ⟨call, known, own⟩ := owned number held
          exact ⟨call, by rw [calls]; exact known, own.live, own.endpoint, own.allowed,
            own.payload⟩ }
  | noticed stage live unseen changed waiting same =>
      rw [state_cancelled] at state
      subst same
      exact {
        behind := by simp [state, FormState.subscribe, Session.viewOf]
        fresh := fun _ => by rw [state]; rfl
        owned := fun number held => by simp at held }
  | launched payload deadline stage live seen waited due complete allowed =>
      obtain ⟨behind, fresh, _⟩ := attends stage
      exact {
        behind := by rw [state]; exact behind
        fresh := fun same => by rw [state]; exact fresh seen
        owned := fun number held => by
          obtain rfl := Option.some.inj held
          refine ⟨Lookup.Call.create worker.integration.endpoint payload, ?_, rfl, rfl, allowed,
            complete⟩
          simp [calls, Effect.onCalls, Session.viewOf] }
  | lapsed deadline stage live seen waited due idle =>
      obtain ⟨behind, fresh, owned⟩ := attends stage
      exact {
        behind := by rw [state]; exact behind
        fresh := fun same => by rw [state]; exact fresh seen
        owned := fun number held => by
          obtain ⟨call, known, own⟩ := owned number held
          exact ⟨call, by rw [calls]; exact known, own.live, own.endpoint, own.allowed,
            own.payload⟩ }
  | completed number outcome stage live seen underWay ended =>
      obtain ⟨behind, fresh, _⟩ := attends stage
      have free : Attends setup session { worker with inFlight := none, phase := .idle } :=
        ⟨behind, fresh, fun number held => by simp at held⟩
      apply attends_later setup session next _ free
      · rw [state]
        exact advances_acts _ _
      · intro number held
        simp at held

end Work

section Steps

theorem work_consistent (session next : Session) (position : Nat)
    (consistent : Consistent setup session)
    (turn : session.workerTurn? setup position = some next) : Consistent setup next := by
  obtain ⟨worker, after, acts, events, found, took, same⟩ :=
    worker_turn setup position session next turn
  have state : next.state = acts.foldl Effect.onState session.state := by rw [same]
  have calls : next.calls = acts.foldl Effect.onCalls session.calls := by rw [same]
  have advances : Advances session.state next.state := state ▸ advances_acts acts session.state
  have inside := (List.getElem?_eq_some_iff.mp found).1
  have own : next.workers[position]? = some after := by simp [same, inside]
  have others : ∀ other, other ≠ position → next.workers[other]? = session.workers[other]? := by
    intro other different
    simp [same, Ne.symm different]
  have keeps := took_keeps setup session worker after acts took next calls
  have number := took_number setup session worker after acts took
  have more : session.calls.length ≤ next.calls.length :=
    calls ▸ took_more setup session worker after acts took
  have ownApart : ∀ (other : Nat) (rival : Worker) (held : Nat), other ≠ position →
      session.workers[other]? = some rival → after.inFlight = some held →
      rival.inFlight ≠ some held := by
    intro other rival held different against under both
    rcases number held under with before | ⟨fresh, _⟩
    · exact consistent.apart position other worker rival held (Ne.symm different) found against
        before both
    · exact Nat.ne_of_lt (consistent.known other rival held against both) fresh
  constructor
  case running =>
    intro other rival against running
    by_cases here : other = position
    · subst here
      obtain rfl := Option.some.inj (own.symm.trans against)
      exact took_attends setup session worker after acts took next
        (consistent.running other worker found) (consistent.waiting other worker found) state calls
        running
    · rw [others other here] at against
      refine attends_later setup session next rival (consistent.running other rival against running)
        advances fun held under => keeps held ?_
      exact consistent.apart other position rival worker held here against found under
  case waiting =>
    intro other rival against waiting
    by_cases here : other = position
    · subst here
      obtain rfl := Option.some.inj (own.symm.trans against)
      exact absurd waiting (took_begun setup session worker after acts took)
    · exact consistent.waiting other rival (others other here ▸ against) waiting
  case known =>
    intro other rival held against under
    by_cases here : other = position
    · subst here
      obtain rfl := Option.some.inj (own.symm.trans against)
      rcases number held under with before | ⟨_, fresh⟩
      · exact Nat.lt_of_lt_of_le (consistent.known other worker held found before) more
      · rw [calls]
        exact fresh
    · rw [others other here] at against
      exact Nat.lt_of_lt_of_le (consistent.known other rival held against under) more
  case apart =>
    intro left right first second held different foundFirst foundSecond under
    by_cases here : left = position
    · subst here
      obtain rfl := Option.some.inj (own.symm.trans foundFirst)
      exact ownApart right second held (Ne.symm different)
        (others right (Ne.symm different) ▸ foundSecond) under
    · by_cases there : right = position
      · subst there
        obtain rfl := Option.some.inj (own.symm.trans foundSecond)
        intro both
        exact ownApart left first held different (others left different ▸ foundFirst) both under
      · exact consistent.apart left right first second held different
          (others left here ▸ foundFirst) (others right there ▸ foundSecond) under

theorem step_consistent (session next : Session) (move : Move)
    (consistent : Consistent setup session) (step : Step setup session move next) :
    Consistent setup next := by
  cases step with
  | write path value =>
      exact consistent_later setup session _ consistent rfl
        (advances_set path value session.state) (keeps_same session _ rfl)
  | reset values =>
      exact consistent_later setup session _ consistent rfl
        (advances_reset values session.state) (keeps_same session _ rfl)
  | elapse later forward =>
      exact consistent_later setup session _ consistent rfl (advances_refl _)
        (keeps_same session _ rfl)
  | cancelAll =>
      exact consistent_later setup session _ consistent rfl (advances_refl _)
        (keeps_same session _ rfl)
  | discard => exact discard_consistent setup session consistent
  | work position next turn => exact work_consistent setup session next position consistent turn
  | answer position call after known live same =>
      exact consistent_later setup session _ consistent rfl (advances_refl _)
        fun number => keeps_answered session position number call after known same

/-- Every session of a run is consistent. -/
theorem reachable_consistent (values : FormValues) (fallback : Nat)
    (integrations : List FormEngine.Integration) (session : Session)
    (reached : Reachable setup (Session.create values fallback integrations) session) :
    Consistent setup session := by
  induction reached with
  | start => exact create_consistent setup values fallback integrations
  | step session next move _ step ih => exact step_consistent setup session next move ih step

end Steps

end FormEngine.Integration
