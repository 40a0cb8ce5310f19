import FormEngine.Proofs.Integration.Answers
import FormEngine.Proofs.Integration.Timeline

/-!
Look-ups are the debounced wakes. In every timed run the calls that a worker has launched up to now
are those that its wakes make due, each at its time and with the payload of its wake.
-/

namespace FormEngine.Integration

/-- Source values that make a payload: each is there and has a text that is not empty. -/
def Sendable (values : List (Option FormValue)) : Prop :=
  ∀ value ∈ values, ∃ text, value.bind FormValue.payloadText = some text ∧ text ≠ ""

theorem build_sendable (sources : List String) (values : List (Option FormValue))
    (aligned : values.length = sources.length) :
    (Payload.build? sources values).isSome = true ↔ Sendable values := by
  unfold Payload.build?
  rw [Option.isSome_map]
  induction sources generalizing values with
  | nil =>
      obtain rfl := List.length_eq_zero_iff.mp aligned
      simp [Payload.texts?, Sendable]
  | cons source sources ih =>
      cases values with
      | nil => simp at aligned
      | cons value values =>
          have rest := ih values (Nat.succ.inj aligned)
          unfold Payload.texts? Sendable
          rw [List.forall_mem_cons]
          cases held : value.bind FormValue.payloadText with
          | none => simp
          | some text =>
              by_cases empty : text = ""
              · simp [empty]
              · simpa [empty, Sendable] using rest

section Runs

variable (setup : Setup) (integration : FormEngine.Integration) (delay position : Nat)

theorem wakes_grow (session next : Session) (move : Move) (history : History) :
    ∃ woken, (history.follow position session move next).wakes = history.wakes ++ woken ∧
      woken.length ≤ 1 := by
  have same : ∃ woken, history.wakes = history.wakes ++ woken ∧ woken.length ≤ 1 :=
    ⟨[], by simp, by simp⟩
  unfold History.follow
  split
  · split
    · split
      · rename_i worker _
        refine ⟨History.wakesOf session worker, rfl, ?_⟩
        unfold History.wakesOf
        dsimp only
        split <;> simp
      · exact same
    · exact same
  · exact same

theorem untied_earlier (sources : List String) (session next : Session) (move : Move)
    (history : History)
    (untied : Untied sources delay (history.follow position session move next).wakes) :
    Untied sources delay history.wakes := by
  obtain ⟨woken, same, few⟩ := wakes_grow position session next move history
  rw [same] at untied
  match woken, few with
  | [], _ => simpa using untied
  | [last], _ => exact untied_before sources delay history.wakes last untied

-- Moves of others leave the worker alone; the clock alone could make it late.
theorem chronicle_later (session next : Session) (history : History) (worker : Worker)
    (chronicle : Chronicle integration delay position session history worker)
    (live : next.shutdown = session.shutdown)
    (found : next.workers[position]? = session.workers[position]?)
    (forward : session.now ≤ next.now)
    (punctual : worker.stage = .running → ∀ deadline, worker.deadline = some deadline →
      session.now ≤ deadline → next.now ≤ deadline) :
    Chronicle integration delay position next history worker := by
  refine ⟨live.trans chronicle.live, found.trans chronicle.found, chronicle.runs, chronicle.paced,
    chronicle.sized, fun wake listed => Nat.le_trans (chronicle.past wake listed) forward,
    chronicle.rising, ?_⟩
  rcases chronicle.kept with waiting | ⟨running, earlier, last, kept⟩
  · exact Or.inl waiting
  · refine Or.inr ⟨running, earlier, last, kept_later _ _ _ _ _ _ _ kept next.now forward ?_⟩
    intro deadline waits
    exact punctual running deadline waits (kept.pending deadline waits).2.1

variable (filled : integration.sources ≠ [])
  (allowed : setup.allowlist.allows integration.endpoint = true)

include filled allowed

theorem chronicle_work (session next : Session) (other : Nat) (history : History) (worker : Worker)
    (consistent : Consistent setup session)
    (chronicle : Chronicle integration delay position session history worker)
    (turn : session.workerTurn? setup other = some next)
    (untied : Untied integration.sources delay
      (history.follow position session (.work other) next).wakes) :
    ∃ after, Chronicle integration delay position next
      (history.follow position session (.work other) next) after := by
  obtain ⟨active, after, acts, events, found, took, same⟩ :=
    worker_turn setup other session next turn
  have live : next.shutdown = session.shutdown := by rw [same]
  have now : next.now = session.now := by rw [same]
  have calls : next.calls = acts.foldl Effect.onCalls session.calls := by rw [same]
  by_cases here : other = position
  · subst here
    obtain rfl := Option.some.inj (chronicle.found.symm.trans found)
    have follow : history.follow other session (.work other) next =
        history.afterTurn worker session next := by
      simp [History.follow, found]
    rw [follow] at untied ⊢
    have inside := (List.getElem?_eq_some_iff.mp found).1
    obtain ⟨runs, paced, running, kept⟩ := kept_turn setup integration delay filled allowed session
      next worker after acts history other chronicle (consistent.running other worker found) took
      calls untied
    have woken := mem_wakes_of session worker
    refine ⟨after, live.trans chronicle.live, by simp [same, inside], runs, paced, ?_, ?_, ?_,
      Or.inr ⟨running, now ▸ kept⟩⟩
    · intro wake listed
      rcases List.mem_append.mp listed with old | new
      · exact chronicle.sized wake old
      · rw [woken wake new, chronicle.runs]
        exact List.length_map ..
    · intro wake listed
      rw [now]
      rcases List.mem_append.mp listed with old | new
      · exact chronicle.past wake old
      · exact Nat.le_of_eq (congrArg Wake.time (woken wake new))
    · refine List.pairwise_append.mpr ⟨chronicle.rising, ?_, ?_⟩
      · apply List.pairwise_of_forall_mem_list
        intro first early second late
        exact Nat.le_of_eq (by rw [woken first early, woken second late])
      · intro first old second new
        rw [woken second new]
        exact chronicle.past first old
  · have quiet : history.follow position session (.work other) next = history := by
      simp [History.follow, here]
    rw [quiet]
    exact ⟨worker, chronicle_later integration delay position session next history worker chronicle
      live (by simp [same, here]) (Nat.le_of_eq now.symm) fun _ _ _ ahead => now ▸ ahead⟩

theorem chronicle_step (session next : Session) (move : Move) (history : History) (worker : Worker)
    (consistent : Consistent setup session)
    (chronicle : Chronicle integration delay position session history worker)
    (step : Step setup session move next) (timely : Timely setup session move)
    (untied : Untied integration.sources delay (history.follow position session move next).wakes) :
    ∃ after, Chronicle integration delay position next
      (history.follow position session move next) after := by
  have others := fun next => chronicle_later integration delay position session next history worker
    chronicle
  cases step with
  | write path value =>
      exact ⟨worker, others _ rfl rfl (Nat.le_refl _) fun _ _ _ ahead => ahead⟩
  | reset values => exact ⟨worker, others _ rfl rfl (Nat.le_refl _) fun _ _ _ ahead => ahead⟩
  | elapse later forward =>
      have listed := List.mem_of_getElem? chronicle.found
      exact ⟨worker, others _ rfl rfl forward fun running deadline waits _ =>
        timely.2 worker listed running deadline waits⟩
  | cancelAll => exact timely.elim
  | discard => exact timely.elim
  | work other next turn =>
      exact chronicle_work setup integration delay position filled allowed session next other
        history worker consistent chronicle turn untied
  | answer number call after known live same =>
      exact ⟨worker, others _ rfl rfl (Nat.le_refl _) fun _ _ _ ahead => ahead⟩

theorem chronicle_run (values : FormValues) (fallback : Nat)
    (integrations : List FormEngine.Integration) (session : Session) (history : History)
    (listed : integrations[position]? = some integration)
    (run : Timed setup position (Session.create values fallback integrations) history session)
    (untied : Untied integration.sources (integration.effectiveDebounce fallback) history.wakes) :
    ∃ worker, Chronicle integration (integration.effectiveDebounce fallback) position session
      history worker := by
  induction run with
  | start =>
      refine ⟨Worker.create position fallback integration, rfl, ?_, rfl, rfl, by simp, by simp,
        List.Pairwise.nil, Or.inl ⟨rfl, rfl⟩⟩
      simp [Session.create, listed]
  | step history session next move run step timely ih =>
      have earlier := untied_earlier _ position _ session next move history untied
      obtain ⟨worker, chronicle⟩ := ih earlier
      have consistent := reachable_consistent setup values fallback integrations session
        (timed_reachable setup position _ session history run)
      exact chronicle_step setup integration _ position filled allowed session next move history
        worker consistent chronicle step timely untied

end Runs

/-- In a timed run in which no source change falls on a deadline, the worker has launched by any
time that is over exactly the look-ups that its wakes make due, one at a time, and while nothing is
unseen it has seen the source values that are there. -/
theorem lookups_follow_wakes (setup : Setup) (integration : FormEngine.Integration)
    (position : Nat) (values : FormValues) (fallback : Nat)
    (integrations : List FormEngine.Integration) (session : Session) (history : History)
    (listed : integrations[position]? = some integration) (filled : integration.sources ≠ [])
    (allowed : setup.allowlist.allows integration.endpoint = true)
    (run : Timed setup position (Session.create values fallback integrations) history session)
    (untied : Untied integration.sources (integration.effectiveDebounce fallback) history.wakes) :
    (∀ time payload,
      (time < session.now ∨
        (time = session.now ∧ session.workerTurn? setup position = none)) →
      ((time, payload) ∈ history.launches ↔
        Due integration.sources (integration.effectiveDebounce fallback) history.wakes time
          payload)) ∧
    (∀ wake ∈ history.wakes,
      (Payload.build? integration.sources wake.values).isSome = true ↔ Sendable wake.values) ∧
    history.wakes.Pairwise (fun first second => first.time ≤ second.time) ∧
    history.launches.Pairwise (fun first second => first.1 < second.1) ∧
    (∀ entry ∈ history.launches, entry.1 ≤ session.now) ∧
    (∀ worker, session.workers[position]? = some worker → worker.stage = .running →
      worker.receiver.seen = session.state.changes →
      worker.observed = session.state.watch integration.sources) := by
  obtain ⟨worker, live, found, runs, paced, sized, _, rising, kept⟩ := chronicle_run setup
    integration position filled allowed values fallback integrations session history listed run
    untied
  have consistent := reachable_consistent setup values fallback integrations session
    (timed_reachable setup position _ session history run)
  have readiness : ∀ wake ∈ history.wakes,
      (Payload.build? integration.sources wake.values).isSome = true ↔ Sendable wake.values :=
    fun wake woken => build_sendable integration.sources wake.values (sized wake woken)
  have attentive : ∀ worker, session.workers[position]? = some worker →
      worker.stage = .running → worker.receiver.seen = session.state.changes →
      worker.observed = session.state.watch integration.sources := by
    intro current here running seen
    obtain rfl := Option.some.inj (found.symm.trans here)
    rw [← runs]
    exact (consistent.running position worker found running).fresh seen
  rcases kept with ⟨_, rfl⟩ | ⟨running, earlier, last, kept⟩
  · exact ⟨fun time payload _ => by simp [Due], readiness, rising, List.Pairwise.nil, by simp,
      attentive⟩
  · refine ⟨?_, readiness, rising, kept.ordered, kept.begun, attentive⟩
    intro time payload past
    cases waits : worker.deadline with
    | none => exact kept.settled waits time payload
    | some deadline =>
        obtain ⟨_, ahead, _, launches⟩ := kept.pending deadline waits
        have early : time < deadline := by
          rcases past with before | ⟨rfl, rests⟩
          · exact Nat.lt_of_lt_of_le before ahead
          · exact rest_before_deadline setup position session worker found rests running deadline
              waits
        rw [launches]
        exact and_iff_left early

section City

/-- A session after a turn of its only worker. -/
def worked (session : Session) : Session := (session.workerTurn? citySetup 0).getD session

def cityWaiting : Session := worked cityForm

def cityDue : Session := { cityWaiting with now := 500 }

def cityLaunched : Session := worked cityDue

def cityHistory : History :=
  History.follow 0 cityDue (.work 0) cityLaunched
    (History.follow 0 cityForm (.work 0) cityWaiting ⟨[], []⟩)

theorem worked_step (session : Session)
    (turn : (session.workerTurn? citySetup 0).isSome = true) :
    Step citySetup session (.work 0) (worked session) := by
  obtain ⟨next, took⟩ := Option.isSome_iff_exists.mp turn
  have same : worked session = next := by simp [worked, took]
  exact .work 0 _ (same ▸ took)

theorem city_sleeps : Timely citySetup cityWaiting (.elapse 500) := by
  have only : cityWaiting.workers.map Worker.deadline = [some 500] := by decide +kernel
  have rests : (cityWaiting.workerTurn? citySetup 0).isNone = true := by decide +kernel
  constructor
  · intro position
    cases position with
    | zero => exact Option.isNone_iff_eq_none.mp rests
    | succ position =>
        have count := congrArg List.length only
        have absent : cityWaiting.workers[position + 1]? = none := by
          apply List.getElem?_eq_none
          simp at count
          omega
        simp [Session.workerTurn?, absent]
  · intro worker listed _ deadline waits
    have known : worker.deadline ∈ [some 500] := only ▸ List.mem_map_of_mem listed
    simp [waits] at known
    omega

theorem city_timed : Timed citySetup 0 cityForm cityHistory cityLaunched := by
  have waits : Timed citySetup 0 cityForm _ cityWaiting :=
    .step _ _ _ (.work 0) .start (worked_step cityForm (by decide +kernel)) trivial
  have sleeps : Timed citySetup 0 cityForm _ cityDue :=
    .step _ _ _ (.elapse 500) waits (.elapse 500 (by decide +kernel)) city_sleeps
  exact .step _ _ _ (.work 0) sleeps (worked_step cityDue (by decide +kernel)) trivial

theorem city_lookup_is_due :
    Due ["code"] 500 cityHistory.wakes 500 [("code", "1000")] := by
  have launched : (500, [("code", "1000")]) ∈ cityHistory.launches := by decide +kernel
  have once : cityHistory.wakes.length = 1 := by decide +kernel
  obtain ⟨only, same⟩ := List.length_eq_one_iff.mp once
  have untied : Untied ["code"] 500 cityHistory.wakes := by
    intro before wake next after split
    have count := congrArg List.length split
    rw [once] at count
    simp at count
    omega
  have rests : cityLaunched.workerTurn? citySetup 0 = none := by
    rw [← Option.isNone_iff_eq_none]
    decide +kernel
  exact ((lookups_follow_wakes citySetup cityLookup 0 _ 500 [cityLookup] cityLaunched cityHistory
    rfl (by decide) (by decide +kernel) city_timed untied).1 500 _
    (Or.inr ⟨by decide +kernel, rests⟩)).mp launched

end City

end FormEngine.Integration
