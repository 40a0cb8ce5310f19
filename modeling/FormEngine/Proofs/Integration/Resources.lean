import FormEngine.Proofs.Integration.Lookups
import FormEngine.Proofs.Integration.Phases

/-!
What a session keeps for its integrations along a run in which everything may happen in any order.
The run keeps who launched each call. A call is the one that its worker has under way, or it has
ended, or its worker cancelled it, so no worker ever has two calls that may still be applied.
-/

namespace FormEngine.Integration

section Ledgers

/-- The workers that launched the calls that are there only after a move, one for each call. -/
def launchers (session : Session) (move : Move) (next : Session) : List Nat :=
  match move with
  | .work position => List.replicate (next.calls.length - session.calls.length) position
  | _ => []

/-- A run that keeps, in the order of the calls, the positions of the workers that launched them. -/
inductive Ledger (setup : Setup) (first : Session) : List Nat → Session → Prop where
  | start : Ledger setup first [] first
  | step (owners : List Nat) (session next : Session) (move : Move)
      (run : Ledger setup first owners session) (step : Step setup session move next) :
      Ledger setup first (owners ++ launchers session move next) next

theorem ledger_reachable (setup : Setup) (first session : Session) (owners : List Nat)
    (run : Ledger setup first owners session) : Reachable setup first session := by
  induction run with
  | start => exact .start
  | step owners session next move _ step ih => exact .step session next move ih step

-- Every reachable session has a ledger, so what holds along ledgers holds in all of them.
theorem reachable_ledger (setup : Setup) (first session : Session)
    (reached : Reachable setup first session) : ∃ owners, Ledger setup first owners session := by
  induction reached with
  | start => exact ⟨[], .start⟩
  | step session next move _ step ih =>
      obtain ⟨owners, run⟩ := ih
      exact ⟨_, .step owners session next move run step⟩

end Ledgers

section Workers

variable (setup : Setup)

/-- The worker at a position between turns, and what is recorded for it. -/
structure Orderly (session : Session) (position : Nat) (worker : Worker) : Prop where
  index : worker.index = position
  idle : worker.stage = .waiting → worker.Holds .idle
  held : worker.stage = .running → ∃ phase, worker.Holds phase
  walk : Walk .idle (session.phasesOf position) worker.phase

structure Ordered (integrations : List FormEngine.Integration) (session : Session) : Prop where
  planned : session.workers.map Worker.integration = integrations
  orderly : ∀ (position : Nat) (worker : Worker), session.workers[position]? = some worker →
    Orderly session position worker

theorem create_ordered (values : FormValues) (fallback : Nat)
    (integrations : List FormEngine.Integration) :
    Ordered integrations (Session.create values fallback integrations) := by
  constructor
  case planned =>
    simp [Session.create, Worker.create, Function.comp_def]
  case orderly =>
    intro position worker found
    have created : ∃ integration, worker = Worker.create position fallback integration := by
      simp only [Session.create, List.getElem?_map, List.getElem?_zipIdx,
        Option.map_eq_some_iff] at found
      obtain ⟨entry, ⟨integration, _, rfl⟩, rfl⟩ := found
      exact ⟨integration, by simp⟩
    obtain ⟨integration, rfl⟩ := created
    exact ⟨rfl, fun _ => ⟨rfl, rfl, rfl⟩, fun runs => by simp [Worker.create] at runs,
      Walk.stay⟩

-- Records in the name of one worker add to the phases of that worker and to no others.
theorem phases_recorded (session next : Session) (effects : List Effect) (index position : Nat)
    (events : next.events = session.events ++ records effects)
    (own : ∀ event ∈ records effects, event.integration = index) :
    next.phasesOf position = session.phasesOf position ++
      if index = position then entered effects else [] := by
  have named : (records effects).filter (fun event => event.integration == position) =
      if index = position then records effects else [] := by
    split
    · rename_i here
      exact List.filter_eq_self.mpr fun event listed => by simp [own event listed, here]
    · rename_i other
      exact List.filter_eq_nil_iff.mpr fun event listed => by simp [own event listed, other]
  simp only [Session.phasesOf, Session.eventsOf, events, List.filter_append, named,
    List.filterMap_append]
  split <;> rfl

theorem took_integration (view : View) (worker after : Worker) (acts : List Effect)
    (took : Took view worker after acts) : after.integration = worker.integration := by
  cases took with
  | started _ _ _ same => rw [same]
  | noticed _ _ _ _ _ same => rw [same]
  | _ => rfl

variable (integrations : List FormEngine.Integration) (session next : Session)

-- Moves that are no turns of workers let no worker do anything but end.
theorem ordered_later (ordered : Ordered integrations session)
    (events : next.events = session.events)
    (workers : ∀ (position : Nat) (worker : Worker), next.workers[position]? = some worker →
      ∃ before, session.workers[position]? = some before ∧
        (worker = before ∨ worker = { before with stage := .ended }))
    (planned : next.workers.map Worker.integration = session.workers.map Worker.integration) :
    Ordered integrations next := by
  refine ⟨planned.trans ordered.planned, ?_⟩
  intro position worker found
  obtain ⟨before, listed, still⟩ := workers position worker found
  obtain ⟨index, idle, held, walk⟩ := ordered.orderly position before listed
  have phases : next.phasesOf position = session.phasesOf position := by
    simp [Session.phasesOf, Session.eventsOf, events]
  rw [← phases] at walk
  rcases still with rfl | rfl
  · exact ⟨index, idle, held, walk⟩
  · exact ⟨index, fun waits => by simp at waits, fun runs => by simp at runs, walk⟩

theorem work_ordered (ordered : Ordered integrations session) (position : Nat)
    (turn : session.workerTurn? setup position = some next) : Ordered integrations next := by
  obtain ⟨worker, after, effects, found, taken, same⟩ :=
    worker_turn_effects setup position session next turn
  obtain ⟨index, idle, held, walk⟩ := ordered.orderly position worker found
  have took := turn_took _ worker after effects taken
  have traced := turn_traced _ worker (after, effects) taken idle held
  have inside := (List.getElem?_eq_some_iff.mp found).1
  have phases := fun other => phases_recorded session next effects worker.index other
    (by rw [same]) traced.own
  constructor
  case planned =>
    rw [same, ← ordered.planned, List.map_set, took_integration _ worker after _ took]
    apply List.ext_getElem?
    intro place
    by_cases here : position = place
    · subst here
      rw [List.getElem?_set_self (by simpa using inside), List.getElem?_map, found]
      rfl
    · simp [here]
  case orderly =>
    intro other rival against
    by_cases here : position = other
    · subst here
      obtain rfl : after = rival := by simpa [same, inside] using against
      refine ⟨traced.index.trans index, ?_, took_holds worker _ after _ took idle held, ?_⟩
      · intro waits
        exact absurd waits (took_begun setup session worker after _ took)
      · rw [phases position, if_pos index]
        exact walk_trans _ _ _ _ _ walk traced.walk
    · have listed : session.workers[other]? = some rival := by simpa [same, here] using against
      have foreign : worker.index ≠ other := by
        rw [index]
        exact here
      obtain ⟨index, idle, held, walk⟩ := ordered.orderly other rival listed
      refine ⟨index, idle, held, ?_⟩
      rw [phases other, if_neg foreign, List.append_nil]
      exact walk

theorem step_ordered (move : Move) (ordered : Ordered integrations session)
    (step : Step setup session move next) : Ordered integrations next := by
  have still : ∀ next : Session, next.events = session.events → next.workers = session.workers →
      Ordered integrations next := by
    intro next events workers
    refine ordered_later integrations session next ordered events ?_ (by rw [workers])
    intro position worker found
    exact ⟨worker, workers ▸ found, Or.inl rfl⟩
  cases step with
  | work position next turn =>
      exact work_ordered setup integrations session next ordered position turn
  | discard =>
      refine ordered_later integrations session _ ordered rfl ?_ ?_
      · intro position worker found
        obtain ⟨before, listed, same⟩ := discard_worker session position worker found
        exact ⟨before, listed, Or.inr same⟩
      · simp [Session.discard, Session.cancelAll, Function.comp_def]
  | _ => exact still _ rfl rfl

end Workers

section Calls

variable (setup : Setup)

/-- What may have become of a call of a worker: it is the one under way, or it has ended, or the
worker cancelled it. -/
def Tracked (worker : Worker) (number : Nat) (call : Lookup.Call) : Prop :=
  worker.inFlight = some number ∨ call.outcome.isSome = true ∨ call.cancelled = true

/-- A call that has not ended and that its worker has not cancelled. -/
def Pending (call : Lookup.Call) : Prop := call.outcome = none ∧ call.cancelled = false

/-- Every call was launched by the worker that the ledger names, and that worker tracks it. -/
structure Accounted (owners : List Nat) (session : Session) : Prop where
  sized : owners.length = session.calls.length
  kept : ∀ (number position : Nat) (call : Lookup.Call), owners[number]? = some position →
    session.calls[number]? = some call →
    ∃ worker, session.workers[position]? = some worker ∧
      call.endpoint = worker.integration.endpoint ∧ Tracked worker number call

/-- One call, earlier and later: what has ended stays so, and so does what is cancelled. -/
structure Settling (before after : Lookup.Call) : Prop where
  endpoint : after.endpoint = before.endpoint
  ended : before.outcome.isSome = true → after.outcome.isSome = true
  cancelled : before.cancelled = true → after.cancelled = true

theorem settling_refl (call : Lookup.Call) : Settling call call := ⟨rfl, id, id⟩

theorem tracked_later (worker : Worker) (number : Nat) (before call : Lookup.Call)
    (tracked : Tracked worker number before) (settling : Settling before call) :
    Tracked worker number call := by
  rcases tracked with held | ended | stopped
  · exact Or.inl held
  · exact Or.inr (Or.inl (settling.ended ended))
  · exact Or.inr (Or.inr (settling.cancelled stopped))

section Work

variable (session : Session) (worker after : Worker) (acts : List Effect)
  (took : Took (session.viewOf setup worker) worker after acts)

include took

-- A turn takes nothing back: calls that were there stay, the cancelled ones cancelled.
theorem took_old_call (number : Nat) (call : Lookup.Call) (old : number < session.calls.length)
    (known : (acts.foldl Effect.onCalls session.calls)[number]? = some call) :
    ∃ before, session.calls[number]? = some before ∧ Settling before call := by
  rcases took_calls setup session worker after acts took with
    same | ⟨own, _, cancelled⟩ | ⟨payload, _, added⟩
  · rw [same] at known
    exact ⟨call, known, settling_refl call⟩
  · rw [cancelled, List.getElem?_modify] at known
    obtain ⟨before, listed, same⟩ := Option.map_eq_some_iff.mp known
    refine ⟨before, listed, ?_⟩
    rw [← same]
    split
    · exact ⟨rfl, id, fun _ => rfl⟩
    · exact settling_refl before
  · rw [added, List.getElem?_append_left old] at known
    exact ⟨call, known, settling_refl call⟩

theorem took_new_call (number : Nat) (call : Lookup.Call) (new : session.calls.length ≤ number)
    (known : (acts.foldl Effect.onCalls session.calls)[number]? = some call) :
    after.inFlight = some number ∧ call.endpoint = worker.integration.endpoint := by
  rcases took_calls setup session worker after acts took with
    same | ⟨own, _, cancelled⟩ | ⟨payload, held, added⟩
  · rw [same, List.getElem?_eq_none new] at known
    simp at known
  · rw [cancelled, List.getElem?_eq_none (by simpa using new)] at known
    simp at known
  · rw [added, List.getElem?_append_right new] at known
    obtain ⟨last, same⟩ := List.getElem?_eq_some_iff.mp known
    have here : number = session.calls.length := by
      simp at last
      omega
    refine ⟨here ▸ held, ?_⟩
    rw [← same]
    simp [Lookup.Call.create]

-- A worker lets go of its call only when the call has ended, or by cancelling it.
theorem took_tracked (number : Nat) (before call : Lookup.Call)
    (listed : session.calls[number]? = some before)
    (known : (acts.foldl Effect.onCalls session.calls)[number]? = some call)
    (idle : worker.stage = .waiting → worker.Holds .idle)
    (holds : worker.stage = .running → ∃ phase, worker.Holds phase)
    (held : worker.inFlight = some number) (settling : Settling before call) :
    Tracked after number call := by
  have cancels : acts = worker.cancellation → Tracked after number call := by
    intro same
    have modified : acts.foldl Effect.onCalls session.calls =
        session.calls.modify number fun call => { call with cancelled := true } := by
      simp [same, Worker.cancellation, held, Effect.onCalls]
    rw [modified, List.getElem?_modify_eq, listed] at known
    obtain rfl := Option.some.inj known
    exact Or.inr (Or.inr rfl)
  cases took with
  | retired => exact Or.inl held
  | started stage =>
      have free := (idle stage).2.2
      simp [free] at held
  | stopped => exact cancels rfl
  | overlooked => exact Or.inl held
  | noticed => exact cancels rfl
  | launched payload deadline stage live seen waited =>
      obtain ⟨phase, holds⟩ := holds stage
      have waiting := holds_waiting worker phase holds (by rw [waited]; rfl)
      simp [waiting.2.2.1] at held
  | lapsed => exact Or.inl held
  | completed _ answer _ _ _ _ ended =>
      have same : before.outcome = some answer := by
        simpa [Session.viewOf, held, listed] using ended
      exact Or.inr (Or.inl (settling.ended (by rw [same]; rfl)))

end Work

variable (integrations : List FormEngine.Integration) (session next : Session) (owners : List Nat)
  (accounted : Accounted owners session)

include accounted

theorem work_accounted (position : Nat) (ordered : Ordered integrations session)
    (turn : session.workerTurn? setup position = some next) :
    Accounted (owners ++ launchers session (.work position) next) next := by
  obtain ⟨worker, after, acts, events, found, took, same⟩ :=
    worker_turn setup position session next turn
  have calls : next.calls = acts.foldl Effect.onCalls session.calls := by rw [same]
  have more : session.calls.length ≤ next.calls.length :=
    calls ▸ took_more setup session worker after acts took
  have inside := (List.getElem?_eq_some_iff.mp found).1
  have own : next.workers[position]? = some after := by simp [same, inside]
  have integration := took_integration _ worker after acts took
  constructor
  case sized =>
    simp only [launchers, List.length_append, List.length_replicate, accounted.sized]
    omega
  case kept =>
    intro number owner call owned known
    by_cases old : number < session.calls.length
    · rw [List.getElem?_append_left (accounted.sized ▸ old)] at owned
      rw [calls] at known
      obtain ⟨before, listed, settling⟩ :=
        took_old_call setup session worker after acts took number call old known
      obtain ⟨active, there, goes, tracked⟩ := accounted.kept number owner before owned listed
      by_cases here : owner = position
      · subst here
        obtain rfl : worker = active := Option.some.inj (found.symm.trans there)
        refine ⟨after, own, by rw [settling.endpoint, goes, integration], ?_⟩
        rcases tracked with held | past
        · obtain ⟨_, idle, holds, _⟩ := ordered.orderly owner worker found
          exact took_tracked setup session worker after acts took number before call listed known
            idle holds held settling
        · exact tracked_later after number before call (Or.inr past) settling
      · exact ⟨active, by simpa [same, Ne.symm here] using there, settling.endpoint.trans goes,
          tracked_later active number before call tracked settling⟩
    · have new : session.calls.length ≤ number := Nat.le_of_not_lt old
      rw [List.getElem?_append_right (accounted.sized ▸ new)] at owned
      obtain rfl : owner = position := List.eq_of_mem_replicate (List.mem_of_getElem? owned)
      obtain ⟨held, endpoint⟩ :=
        took_new_call setup session worker after acts took number call new (calls ▸ known)
      exact ⟨after, own, by rw [endpoint, integration], Or.inl held⟩

theorem pending_under_way (number position : Nat) (call : Lookup.Call)
    (owned : owners[number]? = some position) (known : session.calls[number]? = some call)
    (pending : Pending call) :
    ∃ worker, session.workers[position]? = some worker ∧ worker.inFlight = some number := by
  obtain ⟨worker, found, _, tracked⟩ := accounted.kept number position call owned known
  rcases tracked with held | ended | stopped
  · exact ⟨worker, found, held⟩
  · simp [pending.1] at ended
  · simp [pending.2] at stopped

theorem accounted_later
    (workers : ∀ (position : Nat) (worker : Worker), session.workers[position]? = some worker →
      ∃ after, next.workers[position]? = some after ∧ after.integration = worker.integration ∧
        after.inFlight = worker.inFlight)
    (sized : next.calls.length = session.calls.length)
    (calls : ∀ (number : Nat) (call : Lookup.Call), next.calls[number]? = some call →
      ∃ before, session.calls[number]? = some before ∧ Settling before call) :
    Accounted owners next := by
  refine ⟨accounted.sized.trans sized.symm, ?_⟩
  intro number position call owned known
  obtain ⟨before, listed, settling⟩ := calls number call known
  obtain ⟨worker, found, goes, tracked⟩ := accounted.kept number position before owned listed
  obtain ⟨after, there, integration, inFlight⟩ := workers position worker found
  refine ⟨after, there, by rw [settling.endpoint, goes, integration], ?_⟩
  have later := tracked_later worker number before call tracked settling
  rw [Tracked, inFlight]
  exact later

theorem step_accounted (move : Move) (ordered : Ordered integrations session)
    (step : Step setup session move next) :
    Accounted (owners ++ launchers session move next) next := by
  cases step with
  | work position next turn =>
      exact work_accounted setup integrations session next owners accounted position ordered turn
  | discard =>
      simp only [launchers, List.append_nil]
      refine accounted_later session _ owners accounted ?_ rfl
        fun number call known => ⟨call, known, settling_refl call⟩
      intro position worker found
      exact ⟨{ worker with stage := .ended }, by simp [Session.discard, found], rfl, rfl⟩
  | answer position call after known live same =>
      simp only [launchers, List.append_nil]
      refine accounted_later session _ owners accounted
        (fun position worker found => ⟨worker, found, rfl, rfl⟩) (List.length_set ..) ?_
      intro number later listed
      by_cases here : position = number
      · subst here
        have inside := (List.getElem?_eq_some_iff.mp known).1
        obtain rfl : after = later := by simpa [inside] using listed
        exact ⟨call, known, same.1, fun ended => by simp [live] at ended,
          fun cancelled => same.2.2.trans cancelled⟩
      · exact ⟨later, by simpa [here] using listed, settling_refl later⟩
  | _ =>
      simp only [launchers, List.append_nil]
      exact ⟨accounted.sized, accounted.kept⟩

end Calls

section Runs

theorem run_accounted (setup : Setup) (values : FormValues) (fallback : Nat)
    (integrations : List FormEngine.Integration) (owners : List Nat) (session : Session)
    (run : Ledger setup (Session.create values fallback integrations) owners session) :
    Ordered integrations session ∧ Accounted owners session := by
  induction run with
  | start =>
      refine ⟨create_ordered values fallback integrations, rfl, ?_⟩
      intro number position call owned
      simp at owned
  | step owners session next move _ step ih =>
      obtain ⟨ordered, accounted⟩ := ih
      exact ⟨step_ordered setup integrations session next move ordered step,
        step_accounted setup integrations session next owners accounted move ordered step⟩

/-- In every session of a run, each integration has its worker, and while the worker runs exactly
one of three things holds: it rests with neither a deadline nor a call; or it waits for a deadline
with a payload to send, so that no deadline passes without one; or it has one call under way, which
it has not cancelled. Only a teardown of the session could cancel the token of that call besides.
The phases recorded for an integration form a walk from rest to the phase of its worker. Every call
is tracked by the worker that launched it, so no worker ever has two calls that are pending. -/
theorem resources_consistent (setup : Setup) (values : FormValues) (fallback : Nat)
    (integrations : List FormEngine.Integration) (owners : List Nat) (session : Session)
    (run : Ledger setup (Session.create values fallback integrations) owners session) :
    (∀ (position : Nat) (integration : FormEngine.Integration),
      integrations[position]? = some integration →
      ∃ worker, session.workers[position]? = some worker ∧ worker.integration = integration ∧
        (worker.stage = .running →
          (∃ phase, worker.Holds phase ∧ ∀ other, worker.Holds other → other = phase) ∧
          (∀ number, worker.inFlight = some number →
            ∃ call, session.calls[number]? = some call ∧ call.cancelled = false) ∧
          (∀ deadline, worker.deadline = some deadline →
            ∃ payload, worker.payload? = some payload)) ∧
        Walk .idle (session.phasesOf position) worker.phase) ∧
    owners.length = session.calls.length ∧
    (∀ (number position : Nat) (call : Lookup.Call), owners[number]? = some position →
      session.calls[number]? = some call →
      ∃ worker, session.workers[position]? = some worker ∧
        call.endpoint = worker.integration.endpoint ∧ Tracked worker number call) ∧
    (∀ (position first second : Nat) (call other : Lookup.Call),
      owners[first]? = some position → session.calls[first]? = some call → Pending call →
      owners[second]? = some position → session.calls[second]? = some other → Pending other →
      first = second) := by
  obtain ⟨ordered, accounted⟩ := run_accounted setup values fallback integrations owners session run
  have consistent := reachable_consistent setup values fallback integrations session
    (ledger_reachable setup _ session owners run)
  refine ⟨?_, accounted.sized, accounted.kept, ?_⟩
  · intro position integration listed
    rw [← ordered.planned, List.getElem?_map] at listed
    obtain ⟨worker, found, same⟩ := Option.map_eq_some_iff.mp listed
    obtain ⟨_, _, held, walk⟩ := ordered.orderly position worker found
    refine ⟨worker, found, same, fun runs => ?_, walk⟩
    obtain ⟨phase, holds⟩ := held runs
    refine ⟨⟨phase, holds, fun other => holds_unique worker phase other holds⟩, ?_, ?_⟩
    · intro number underWay
      obtain ⟨call, known, owned⟩ :=
        (consistent.running position worker found runs).owned number underWay
      exact ⟨call, known, owned.live⟩
    · intro deadline waits
      have waiting := holds_waiting worker phase holds (by rw [waits]; rfl)
      exact Option.isSome_iff_exists.mp waiting.2.2.2
  · intro position first second call other launched known pending against listed still
    obtain ⟨worker, found, here⟩ :=
      pending_under_way session owners accounted first position call launched known pending
    obtain ⟨rival, again, there⟩ :=
      pending_under_way session owners accounted second position other against listed still
    obtain rfl : worker = rival := Option.some.inj (found.symm.trans again)
    exact Option.some.inj (here.symm.trans there)

end Runs

section City

theorem city_ledger : Ledger citySetup cityForm [0] cityLaunched := by
  have waits : Ledger citySetup cityForm _ cityWaiting :=
    .step _ _ _ (.work 0) .start (worked_step cityForm (by decide +kernel))
  have sleeps : Ledger citySetup cityForm _ cityDue :=
    .step _ _ _ (.elapse 500) waits (.elapse 500 (by decide +kernel))
  have calls : Ledger citySetup cityForm _ cityLaunched :=
    .step _ _ _ (.work 0) sleeps (worked_step cityDue (by decide +kernel))
  have owners : launchers cityForm (.work 0) cityWaiting ++
      launchers cityDue (.work 0) cityLaunched = [0] := by decide +kernel
  simpa [launchers, ← owners] using calls

theorem city_call_under_way :
    ∃ worker number call, cityLaunched.workers[0]? = some worker ∧ worker.Holds .inFlight ∧
      worker.inFlight = some number ∧ cityLaunched.calls[number]? = some call ∧
      call.cancelled = false ∧ Walk .idle (cityLaunched.phasesOf 0) .inFlight := by
  obtain ⟨worker, found, _, runs, walk⟩ :=
    (resources_consistent citySetup _ 500 [cityLookup] [0] cityLaunched city_ledger).1 0 cityLookup
      rfl
  have running : cityLaunched.workers[0]?.map Worker.stage = some .running := by decide +kernel
  have calling : cityLaunched.workers[0]?.map Worker.phase = some .inFlight := by decide +kernel
  rw [found] at running calling
  obtain ⟨⟨phase, holds, _⟩, token, _⟩ := runs (Option.some.inj running)
  obtain rfl : phase = .inFlight :=
    (holds_phase worker phase holds).symm.trans (Option.some.inj calling)
  obtain ⟨number, underWay⟩ := Option.isSome_iff_exists.mp holds.2.2
  obtain ⟨call, known, live⟩ := token number underWay
  exact ⟨worker, number, call, found, holds, underWay, known, live, Option.some.inj calling ▸ walk⟩

end City

end FormEngine.Integration
