import FormEngine.Proofs.Integration.Resources

/-!
What is left of a session once it is torn down. From then on, whatever the host and the remote side
still do and in whatever order, no worker writes or launches anything, and the token of every call
is cancelled. A host that waits for the workers instead of dropping them sees each worker that was
running end, and record nothing but the abort of the call that it had under way.
-/

namespace FormEngine.Integration

/-- The token of a call is cancelled by the worker that launched it, or with the session. -/
def Session.tokenCancelled (session : Session) (call : Lookup.Call) : Bool :=
  call.cancelled || session.shutdown

/-- The calls that a turn launches, in order. -/
def launched (effects : List Effect) : List (String × Payload) :=
  effects.filterMap fun effect =>
    match effect with
    | .launch endpoint payload => some (endpoint, payload)
    | _ => none

theorem launched_deeds (effects : List Effect) : launched (deeds effects) = launched effects := by
  induction effects with
  | nil => rfl
  | cons effect rest ih =>
      cases effect with
      | record event => exact ih
      | launch endpoint payload => exact congrArg ((endpoint, payload) :: ·) ih
      | _ => exact ih

theorem launched_registered (paths : List String) : launched (paths.map .register) = [] := by
  simp [launched, List.filterMap_map]

theorem launched_cancellation (worker : Worker) : launched worker.cancellation = [] := by
  unfold Worker.cancellation
  split <;> rfl

section Turns

variable (view : View) (worker after : Worker) (acts : List Effect)
  (took : Took view worker after acts) (torn : view.shutdown = true)

include took torn

/-- After a teardown a worker can only begin or end. -/
theorem took_torn :
    acts = worker.paths.map .register ∨
    (worker.stage = .running ∧ after.stage = .ended ∧ acts = worker.cancellation) := by
  cases took with
  | retired => exact Or.inl rfl
  | started => exact Or.inl rfl
  | stopped stage => exact Or.inr ⟨stage, rfl, rfl⟩
  | overlooked _ live => simp [torn] at live
  | noticed _ live => simp [torn] at live
  | launched _ _ _ live => simp [torn] at live
  | lapsed _ _ live => simp [torn] at live
  | completed _ _ _ live => simp [torn] at live

theorem torn_silent : written acts = [] ∧ launched acts = [] := by
  rcases took_torn view worker after acts took torn with begins | ⟨_, _, ends⟩
  · rw [begins]
    exact ⟨written_registered _, launched_registered _⟩
  · rw [ends]
    exact ⟨written_cancellation worker, launched_cancellation worker⟩

theorem torn_values (state : FormState) : SameValues (acts.foldl Effect.onState state) state := by
  have same := performed_writes acts state state ⟨rfl, rfl⟩
  rw [(torn_silent view worker after acts took torn).1] at same
  exact same

theorem torn_calls (calls : List Lookup.Call) :
    (acts.foldl Effect.onCalls calls).length = calls.length := by
  rcases took_torn view worker after acts took torn with begins | ⟨_, _, ends⟩
  · rw [begins, calls_registered]
  · rw [ends]
    unfold Worker.cancellation
    split
    · rfl
    · exact List.length_modify ..

end Turns

-- A worker that is told to end records the abort of its call, and nothing without one.
theorem stop_entered (worker : Worker) (phase : Phase) (holds : worker.Holds phase) :
    entered worker.stop.2 = if worker.inFlight.isSome then [.aborted] else [] := by
  unfold Worker.stop Worker.abandon
  cases underWay : worker.inFlight with
  | none => rfl
  | some number =>
      have calling : worker.phase = .inFlight :=
        (holds_calling worker phase holds (by rw [underWay]; rfl)).1
      simp [Worker.enter, calling, entered, records, Worker.note, Event.phase?]

theorem stopping_turn (view : View) (worker : Worker) (torn : view.shutdown = true)
    (running : worker.stage = .running) : worker.turn? view = some worker.stop := by
  simp [Worker.turn?, running, torn]

section Runs

variable (setup : Setup)

theorem reachable_trans (first middle last : Session) (reached : Reachable setup first middle)
    (further : Reachable setup middle last) : Reachable setup first last := by
  induction further with
  | start => exact reached
  | step session next move _ step ih => exact .step session next move ih step

theorem reachable_ordered (values : FormValues) (fallback : Nat)
    (integrations : List FormEngine.Integration) (session : Session)
    (reached : Reachable setup (Session.create values fallback integrations) session) :
    Ordered integrations session := by
  obtain ⟨owners, run⟩ := reachable_ledger setup _ session reached
  exact (run_accounted setup values fallback integrations owners session run).1

/-- Nothing revokes a teardown, and no call is launched after it. -/
theorem step_torn (session next : Session) (move : Move) (step : Step setup session move next)
    (torn : session.shutdown = true) :
    next.shutdown = true ∧ next.calls.length = session.calls.length := by
  cases step with
  | work position next turn =>
      obtain ⟨worker, after, acts, events, _, took, same⟩ :=
        worker_turn setup position session next turn
      rw [same]
      exact ⟨torn, torn_calls _ worker after acts took torn session.calls⟩
  | answer position call after => exact ⟨torn, List.length_set ..⟩
  | cancelAll => exact ⟨rfl, rfl⟩
  | discard => exact ⟨rfl, rfl⟩
  | _ => exact ⟨torn, rfl⟩

theorem run_torn (torn later : Session) (run : Reachable setup torn later)
    (down : torn.shutdown = true) :
    later.shutdown = true ∧ later.calls.length = torn.calls.length := by
  induction run with
  | start => exact ⟨down, rfl⟩
  | step session next move _ step ih =>
      obtain ⟨still, calls⟩ := ih
      obtain ⟨again, kept⟩ := step_torn setup session next move step still
      exact ⟨again, kept.trans calls⟩

/-- A remote side that honours cancellation ends every call as soon as the call has its turn. -/
theorem token_stops_call (session : Session) (number : Nat) (call : Lookup.Call)
    (known : session.calls[number]? = some call) (live : call.outcome = none)
    (cancelled : session.tokenCancelled call = true) (honours : setup.remote.ignoresCancel = false) :
    ∃ next ended, session.callTurn? setup number = some next ∧
      next.calls[number]? = some ended ∧ ended.outcome = some .cancelled := by
  have inside := (List.getElem?_eq_some_iff.mp known).1
  obtain ⟨ended, advanced, outcome⟩ : ∃ ended,
      call.advance? setup.remote session.now session.begunCalls
        (session.tokenCancelled call) = some ended ∧ ended.outcome = some .cancelled := by
    unfold Lookup.Call.advance?
    cases due : call.due <;> simp [live, cancelled, honours, Lookup.Call.stop]
  refine ⟨{ session with calls := session.calls.set number ended }, ended, ?_, ?_, outcome⟩
  · unfold Session.tokenCancelled at advanced
    simp [Session.callTurn?, known, advanced]
  · simp [inside]

end Runs

section Waiting

variable (setup : Setup)

/-- A run of a host that waits for the workers instead of dropping them. -/
inductive Patient (first : Session) : Session → Prop where
  | start : Patient first first
  | step (session next : Session) (move : Move) (run : Patient first session)
      (step : Step setup session move next) (waits : move ≠ .discard) : Patient first next

theorem patient_reachable (first session : Session) (run : Patient setup first session) :
    Reachable setup first session := by
  induction run with
  | start => exact .start
  | step session next move _ step _ ih => exact .step session next move ih step

theorem settle_patient (first session : Session) (fuel : Nat)
    (run : Patient setup first session) : Patient setup first (session.settle setup fuel) := by
  induction fuel generalizing session with
  | zero => exact run
  | succ fuel ih =>
      unfold Session.settle
      split
      · rename_i next turn
        obtain ⟨_, move, turns, step⟩ := turn_step setup session next turn
        apply ih
        refine .step session next move run step ?_
        rintro rfl
        simp [Move.isTurn] at turns
      · exact run

theorem join_patient (session : Session) :
    Patient setup session.cancelAll (session.join setup) :=
  settle_patient setup session.cancelAll session.cancelAll Session.turnLimit .start

/-- What is recorded for a worker that was running at the teardown: nothing until its last turn, and
in that turn the abort of the call it had under way. -/
def Winds (session : Session) (position : Nat) (worker : Worker) (later : Session) : Prop :=
  (later.workers[position]? = some worker ∧
    later.phasesOf position = session.phasesOf position ∧
    (later.workerTurn? setup position).isSome = true) ∨
  (∃ after, later.workers[position]? = some after ∧ after.stage = .ended ∧
    later.phasesOf position =
      session.phasesOf position ++ if worker.inFlight.isSome then [.aborted] else [])

variable (integrations : List FormEngine.Integration) (session torn : Session) (position : Nat)
  (worker : Worker)

-- The last turn is there as long as it has not been taken.
theorem last_turn (later : Session) (down : later.shutdown = true)
    (running : worker.stage = .running) (found : later.workers[position]? = some worker) :
    (later.workerTurn? setup position).isSome = true := by
  have stops := stopping_turn (later.viewOf setup worker) worker down running
  simp [Session.workerTurn?, found, stops]

theorem winds_later (later next : Session) (down : next.shutdown = true)
    (running : worker.stage = .running) (winds : Winds setup session position worker later)
    (found : next.workers[position]? = later.workers[position]?)
    (phases : next.phasesOf position = later.phasesOf position) :
    Winds setup session position worker next := by
  rcases winds with ⟨still, quiet, _⟩ | ⟨after, ended, stage, recorded⟩
  · have here : next.workers[position]? = some worker := found.trans still
    exact Or.inl ⟨here, phases.trans quiet, last_turn setup position worker next down running here⟩
  · exact Or.inr ⟨after, found.trans ended, stage, phases.trans recorded⟩

theorem winds_work (later next : Session) (other : Nat) (ordered : Ordered integrations later)
    (down : later.shutdown = true) (running : worker.stage = .running)
    (winds : Winds setup session position worker later)
    (turn : later.workerTurn? setup other = some next) :
    Winds setup session position worker next := by
  obtain ⟨active, after, effects, found, taken, same⟩ :=
    worker_turn_effects setup other later next turn
  obtain ⟨index, idle, held, _⟩ := ordered.orderly other active found
  have traced := turn_traced _ active (after, effects) taken idle held
  have phases := phases_recorded later next effects active.index position (by rw [same]) traced.own
  by_cases here : other = position
  · subst here
    rw [if_pos index] at phases
    rcases winds with ⟨still, quiet, _⟩ | ⟨gone, ended, stage, _⟩
    · obtain rfl : worker = active := Option.some.inj (still.symm.trans found)
      obtain ⟨phase, holds⟩ := held running
      rw [stopping_turn _ worker down running] at taken
      have stopped := Option.some.inj taken
      have inside := (List.getElem?_eq_some_iff.mp found).1
      have ends : after.stage = .ended := (congrArg (fun taken => taken.1.stage) stopped).symm
      refine Or.inr ⟨after, by simp [same, inside], ends, ?_⟩
      rw [phases, quiet, ← stop_entered worker phase holds, stopped]
    · obtain rfl : gone = active := Option.some.inj (ended.symm.trans found)
      simp [Worker.turn?, stage] at taken
  · have foreign : active.index ≠ position := by
      rw [index]
      exact here
    rw [if_neg foreign, List.append_nil] at phases
    exact winds_later setup session position worker later next (by rw [same]; exact down) running
      winds (by simp [same, here]) phases

theorem winds_step (later next : Session) (move : Move) (ordered : Ordered integrations later)
    (down : later.shutdown = true) (running : worker.stage = .running)
    (winds : Winds setup session position worker later) (step : Step setup later move next)
    (waits : move ≠ .discard) : Winds setup session position worker next := by
  have still := (step_torn setup later next move step down).1
  cases step with
  | work other next turn =>
      exact winds_work setup integrations session position worker later next other ordered down
        running winds turn
  | discard => exact absurd rfl waits
  | _ => exact winds_later setup session position worker later _ still running winds rfl rfl

end Waiting

/-- Nothing happens after a teardown, by shutdown, join or drop: in every session of every run that
goes on from it no turn of a worker writes a value or launches a call, so the values stay as they
are and no call has been added. The token of every call is cancelled, which stops each one at a
remote side that honours it. Where the host waits for the workers, a worker that was running records
the abort of its call as its last phase, or nothing if it had none, whatever that call is
answered. -/
theorem silent_after_teardown (setup : Setup) (values : FormValues) (fallback : Nat)
    (integrations : List FormEngine.Integration) (session torn later : Session)
    (reached : Reachable setup (Session.create values fallback integrations) session)
    (teardown : torn = session.cancelAll ∨ torn = session.discard)
    (run : Reachable setup torn later) :
    (∀ (position : Nat) (worker after : Worker) (effects : List Effect),
      later.workers[position]? = some worker →
      worker.turn? (later.viewOf setup worker) = some (after, effects) →
      written effects = [] ∧ launched effects = []) ∧
    (∀ (position : Nat) (next : Session), later.workerTurn? setup position = some next →
      SameValues next.state later.state) ∧
    later.calls.length = session.calls.length ∧
    (∀ (number : Nat) (call : Lookup.Call), later.calls[number]? = some call →
      later.tokenCancelled call = true ∧
      (call.outcome = none → setup.remote.ignoresCancel = false →
        ∃ next ended, later.callTurn? setup number = some next ∧
          next.calls[number]? = some ended ∧ ended.outcome = some .cancelled)) ∧
    (torn = session.cancelAll → Patient setup torn later →
      ∀ (position : Nat) (worker : Worker), session.workers[position]? = some worker →
        worker.stage = .running → Winds setup session position worker later) := by
  have down : torn.shutdown = true := by
    rcases teardown with rfl | rfl <;> rfl
  have known : torn.calls = session.calls := by
    rcases teardown with rfl | rfl <;> rfl
  obtain ⟨still, calls⟩ := run_torn setup torn later run down
  refine ⟨?_, ?_, calls.trans (by rw [known]), ?_, ?_⟩
  · intro position worker after effects _ turn
    have took := turn_took _ worker after effects turn
    rw [← written_deeds, ← launched_deeds]
    exact torn_silent _ worker after _ took still
  · intro position next turn
    obtain ⟨worker, after, acts, events, _, took, same⟩ :=
      worker_turn setup position later next turn
    rw [same]
    exact torn_values _ worker after acts took still later.state
  · intro number call listed
    have cancelled : later.tokenCancelled call = true := by simp [Session.tokenCancelled, still]
    exact ⟨cancelled, fun live honours =>
      token_stops_call setup later number call listed live cancelled honours⟩
  · rintro rfl patient position worker found running
    have ordered : ∀ other, Reachable setup session.cancelAll other →
        Ordered integrations other := by
      intro other further
      refine reachable_ordered setup values fallback integrations other ?_
      exact reachable_trans setup _ _ _ (.step _ _ .cancelAll reached .cancelAll) further
    clear run still calls
    induction patient with
    | start => exact Or.inl ⟨found, rfl, last_turn setup position worker _ rfl running found⟩
    | step before next move patient step waits ih =>
        have further := patient_reachable setup _ before patient
        exact winds_step setup integrations session position worker before next move
          (ordered before further) (run_torn setup _ before further rfl).1 running ih step waits

section City

/-- The city is being looked up as the host shuts down and waits. -/
def cityJoined : Session := cityLaunched.join citySetup

theorem city_lookup_aborted :
    cityJoined.phasesOf 0 = cityLaunched.phasesOf 0 ++ [.aborted] ∧
      cityJoined.calls.length = cityLaunched.calls.length ∧
      ∀ call ∈ cityJoined.calls, cityJoined.tokenCancelled call = true := by
  have reached : Reachable citySetup cityForm cityLaunched :=
    timed_reachable citySetup 0 cityForm cityLaunched cityHistory city_timed
  have run := join_patient citySetup cityLaunched
  obtain ⟨_, _, calls, tokens, winds⟩ := silent_after_teardown citySetup _ 500 [cityLookup]
    cityLaunched cityLaunched.cancelAll cityJoined reached (Or.inl rfl)
    (patient_reachable citySetup _ _ run)
  have shown : cityLaunched.workers[0]?.map (fun worker =>
      (worker.stage, worker.inFlight.isSome)) = some (.running, true) := by decide +kernel
  obtain ⟨worker, found, same⟩ := Option.map_eq_some_iff.mp shown
  obtain ⟨running, underWay⟩ := Prod.mk.inj same
  have ended : cityJoined.workers[0]?.map Worker.stage = some .ended := by decide +kernel
  refine ⟨?_, calls, ?_⟩
  · rcases winds rfl run 0 worker found running with ⟨still, _⟩ | ⟨_, _, _, recorded⟩
    · simp [still, running] at ended
    · simpa [underWay] using recorded
  · intro call listed
    obtain ⟨number, known⟩ := List.mem_iff_getElem?.mp listed
    exact (tokens number call known).1

end City

end FormEngine.Integration
