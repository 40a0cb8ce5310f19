import FormEngine.Proofs.Integration.Consistency

/-!
What is written into the target fields. A worker writes only as it completes the call it has under
way, and by then that call has never been cancelled and still asks for the values that the source
fields hold.
-/

namespace FormEngine.Integration

/-- The writes among the effects of a turn, in order. -/
def written (effects : List Effect) : List (String × FormValue) :=
  effects.filterMap fun effect =>
    match effect with
    | .write path value => some (path, value)
    | _ => none

/-- The targets that an answer names, each with its value, in the order they are declared. -/
def answered (targets : List String) (values : FormValues) : List (String × FormValue) :=
  targets.filterMap fun target =>
    (Keyed.find? (Path.lastSegment target) values).map fun value => (target, value)

theorem worker_writes (worker : Worker) (answer : FormValues) :
    worker.writes answer =
      (answered worker.integration.targets answer).map fun write =>
        Effect.write write.1 write.2 := by
  rw [Worker.writes, answered, List.map_filterMap]
  congr 1
  funext target
  cases Keyed.find? (Path.lastSegment target) answer <;> rfl

theorem written_deeds (effects : List Effect) : written (deeds effects) = written effects := by
  induction effects with
  | nil => rfl
  | cons effect rest ih =>
      cases effect with
      | record event => exact ih
      | write path value => exact congrArg ((path, value) :: ·) ih
      | _ => exact ih

theorem written_registered (paths : List String) : written (paths.map .register) = [] := by
  simp [written, List.filterMap_map]

theorem written_cancellation (worker : Worker) : written worker.cancellation = [] := by
  unfold Worker.cancellation
  split <;> rfl

theorem written_answer (worker : Worker) (outcome : Lookup.Outcome) :
    written (worker.answerWrites outcome) =
      match outcome with
      | .answered (some values) => answered worker.integration.targets values
      | _ => [] := by
  unfold Worker.answerWrites
  split
  · rename_i values
    rw [worker_writes, written, List.filterMap_map]
    exact List.filterMap_some
  · rename_i other
    cases outcome with
    | answered values =>
        cases values with
        | none => rfl
        | some values => exact absurd rfl (other values)
    | _ => rfl

section State

/-- The same values after the same changes; which fields are registered does not matter. -/
def SameValues (left right : FormState) : Prop :=
  left.values = right.values ∧ left.changes = right.changes

theorem same_values_set (path : String) (value : FormValue) (left right : FormState)
    (same : SameValues left right) :
    SameValues (left.setValue path value) (right.setValue path value) := by
  obtain ⟨values, changes⟩ := same
  unfold FormState.setValue
  rw [values]
  split
  · exact ⟨values, changes⟩
  · exact ⟨by simp, by simp [changes]⟩

def writeAll (writes : List (String × FormValue)) (state : FormState) : FormState :=
  writes.foldl (fun state entry => state.setValue entry.1 entry.2) state

-- Registering a field leaves the values alone, and nothing else but a write touches the state.
theorem performed_writes (acts : List Effect) (left right : FormState)
    (same : SameValues left right) :
    SameValues (acts.foldl Effect.onState left) (writeAll (written acts) right) := by
  induction acts generalizing left right with
  | nil => exact same
  | cons act rest ih =>
      cases act with
      | register path => exact ih (left.register path) right same
      | write path value =>
          exact ih _ (right.setValue path value) (same_values_set path value left right same)
      | _ => exact ih left right same

end State

/-- A call that its worker completes with an answer, while the answer still counts. -/
structure Current (setup : Setup) (session : Session) (worker : Worker) (number : Nat)
    (call : Lookup.Call) (values : FormValues) : Prop where
  underWay : worker.inFlight = some number
  known : session.calls[number]? = some call
  ended : call.outcome = some (.answered (some values))
  notCancelled : call.cancelled = false
  notShutDown : session.shutdown = false
  endpoint : call.endpoint = worker.integration.endpoint
  allowed : setup.allowlist.allows call.endpoint = true
  payload : Payload.build? worker.integration.sources
    (session.state.watch worker.integration.sources) = some call.payload

variable (setup : Setup) (values : FormValues) (fallback : Nat)
  (integrations : List FormEngine.Integration) (session : Session)

theorem answer_current (position : Nat) (worker after : Worker) (acts : List Effect)
    (consistent : Consistent setup session) (found : session.workers[position]? = some worker)
    (took : Took (session.viewOf setup worker) worker after acts) :
    written acts = [] ∨
      ∃ number call answer, Current setup session worker number call answer ∧
        after.inFlight = none ∧
        written acts = answered worker.integration.targets answer := by
  cases took with
  | retired => exact Or.inl (written_registered _)
  | started => exact Or.inl (written_registered _)
  | stopped => exact Or.inl (written_cancellation worker)
  | overlooked => exact Or.inl rfl
  | noticed => exact Or.inl (written_cancellation worker)
  | launched => exact Or.inl rfl
  | lapsed => exact Or.inl rfl
  | completed number outcome stage live seen underWay ended =>
      obtain ⟨_, fresh, owned⟩ := consistent.running position worker found stage
      obtain ⟨call, known, own⟩ := owned number underWay
      have outcomes : call.outcome = some outcome := by
        simpa [Session.viewOf, underWay, known] using ended
      rw [written_answer]
      split
      · rename_i answer
        right
        refine ⟨number, call, answer, ?_, rfl, rfl⟩
        exact {
          underWay, known, ended := outcomes, notCancelled := own.live, notShutDown := live
          endpoint := own.endpoint, allowed := own.endpoint ▸ own.allowed
          payload := by
            rw [← fresh seen]
            exact own.payload }
      · exact Or.inl rfl

-- Nothing comes before the end of a call: no shutdown, no unseen change, no deadline.
theorem current_written (worker after : Worker) (acts : List Effect) (number : Nat)
    (call : Lookup.Call) (answer : FormValues)
    (took : Took (session.viewOf setup worker) worker after acts)
    (current : Current setup session worker number call answer) (running : worker.stage = .running)
    (seen : worker.receiver.seen = session.state.changes)
    (early : ∀ deadline, worker.deadline = some deadline → session.now < deadline) :
    written acts = answered worker.integration.targets answer := by
  cases took with
  | retired stage => simp [running] at stage
  | started stage => simp [running] at stage
  | stopped _ shutdown => simp [Session.viewOf, current.notShutDown] at shutdown
  | overlooked _ _ unseen => exact absurd seen unseen
  | noticed _ _ unseen => exact absurd seen unseen
  | launched _ deadline _ _ _ waited due =>
      exact absurd due (Nat.not_le_of_lt (early deadline waited))
  | lapsed deadline _ _ _ waited due =>
      exact absurd due (Nat.not_le_of_lt (early deadline waited))
  | completed _ outcome _ _ _ _ ended =>
      have same : outcome = .answered (some answer) := by
        simpa [Session.viewOf, current.underWay, current.known, current.ended] using ended.symm
      rw [written_answer, same]

/-- No answer is written late: whatever the order of events, a turn that writes completes the call
under way, whose answer is to the values that are there, and it writes what that answer names. It
does so as soon as nothing else comes first. -/
theorem written_is_current (position : Nat) (worker after : Worker) (effects : List Effect)
    (reached : Reachable setup (Session.create values fallback integrations) session)
    (found : session.workers[position]? = some worker)
    (turn : worker.turn? (session.viewOf setup worker) = some (after, effects)) :
    (∀ next, session.workerTurn? setup position = some next →
      SameValues next.state (writeAll (written effects) session.state)) ∧
    (written effects = [] ∨
      ∃ number call answer, Current setup session worker number call answer ∧
        after.inFlight = none ∧
        written effects = answered worker.integration.targets answer) ∧
    (∀ number call answer, Current setup session worker number call answer →
      worker.stage = .running → worker.receiver.seen = session.state.changes →
      (∀ deadline, worker.deadline = some deadline → session.now < deadline) →
      written effects = answered worker.integration.targets answer) := by
  have consistent := reachable_consistent setup values fallback integrations session reached
  have took := turn_took _ worker after effects turn
  rw [← written_deeds]
  refine ⟨?_, answer_current setup session position worker after _ consistent found took,
    fun number call answer => current_written setup session worker after _ number call answer took⟩
  intro next worked
  obtain ⟨events, performed⟩ :=
    perform_all effects { session with workers := session.workers.set position after }
  have same : next = effects.foldl Session.perform
      { session with workers := session.workers.set position after } := by
    simpa [Session.workerTurn?, found, turn] using worked.symm
  rw [same, performed]
  exact performed_writes (deeds effects) session.state session.state ⟨rfl, rfl⟩

section City

def cityLookup : FormEngine.Integration :=
  { endpoint := "cityOf", sources := ["code"], targets := ["city"], debounce := none }

def citySetup : Setup :=
  { allowlist := .ofList ["cityOf"]
    remote := ⟨100, some [.fixed (.answered (some [("city", .text "Sofia")]))], false⟩ }

def cityForm : Session := Session.create [("code", .text "1000")] 500 [cityLookup]

/-- The delay and the latency are over, and the call is answered but not completed yet. -/
def cityAnswered : Session :=
  let waiting := cityForm.sleep citySetup 600
  (waiting.callTurn? citySetup 0).getD waiting

theorem city_answered_reachable : Reachable citySetup cityForm cityAnswered := by
  have waiting := sleep_reachable citySetup cityForm 600 cityForm .start
  unfold cityAnswered
  dsimp only
  cases turn : (cityForm.sleep citySetup 600).callTurn? citySetup 0 with
  | none => exact waiting
  | some next =>
      obtain ⟨_, move, _, step⟩ := call_step citySetup _ next 0 turn
      exact .step _ next move waiting step

theorem city_answer_is_current :
    ∃ worker number call answer, cityAnswered.workers[0]? = some worker ∧
      Current citySetup cityAnswered worker number call answer ∧
      (answered worker.integration.targets answer).map Prod.fst = ["city"] := by
  have names : (cityAnswered.workers[0]?.bind fun worker =>
      (worker.turn? (cityAnswered.viewOf citySetup worker)).map fun turn =>
        (written turn.2).map Prod.fst) = some ["city"] := by decide +kernel
  obtain ⟨worker, found, turns⟩ := Option.bind_eq_some_iff.mp names
  obtain ⟨⟨after, effects⟩, turn, listed⟩ := Option.map_eq_some_iff.mp turns
  rcases (written_is_current citySetup _ 500 [cityLookup] cityAnswered 0 worker after effects
    city_answered_reachable found turn).2.1 with none | ⟨number, call, answer, current, _, same⟩
  · simp [none] at listed
  · exact ⟨worker, number, call, answer, found, current, same ▸ listed⟩

end City

end FormEngine.Integration
