import FormEngine.Proofs.Integration.Mirroring

/-!
A course in company. Along every course there is a run of the integration alone that is told the same
at the same times and places. Moves that do not concern the worker leave that run as it is, and all
others are made in it too.
-/

namespace FormEngine.Integration

section Times

variable (setup : Setup) (position : Nat)

-- Time alone gives a worker nothing to do before its deadline.
theorem turn_later (view : View) (worker : Worker) (time : Nat) (rests : worker.turn? view = none)
    (early : worker.stage = .running → ∀ deadline, worker.deadline = some deadline →
      time < deadline) : worker.turn? { view with now := time } = none := by
  unfold Worker.turn? at rests ⊢
  cases stage : worker.stage with
  | ended => rfl
  | waiting => simp [stage] at rests
  | running =>
      simp only [stage] at rests ⊢
      have pending : (worker.deadline.any fun deadline => decide (deadline ≤ time)) = false := by
        cases waits : worker.deadline with
        | none => rfl
        | some deadline => simpa using early stage deadline waits
      split at rests
      · simp at rests
      · split at rests
        · simp at rests
        · split at rests
          · simp at rests
          · rename_i live seen _
            rw [if_neg live, if_neg seen, if_neg (by simp [pending])]
            exact rests

theorem rest_until (session : Session) (worker : Worker) (later time : Nat)
    (found : session.workers[position]? = some worker)
    (punctual : Punctual setup position session (.elapse later)) (early : time < later) :
    Session.turnAt setup { session with now := time } position = none := by
  obtain ⟨rests, before⟩ := punctual
  have rests := still_turn setup position session rests
  rw [turn_at setup position session worker found] at rests
  rw [turn_at setup position { session with now := time } worker found]
  apply turn_later (session.viewOf setup worker) worker time rests
  intro running deadline waits
  exact Nat.lt_of_lt_of_le early (before worker found running deadline waits)

end Times

/-- A run of the integration alone goes along with the session: the same was told and done. -/
def Accompanied (setup : Setup) (first : Session) (position : Nat) (account : Account)
    (session : Session) : Prop :=
  ∃ solo worker fellow, Alone setup first account solo ∧
    Mirrors position session solo worker fellow

section Company

variable (setup : Setup) (first : Session) (position : Nat)

theorem accompanied_aside (account : Account) (session next : Session)
    (company : Accompanied setup first position account session)
    (found : next.workers[position]? = session.workers[position]?) (now : next.now = session.now)
    (shutdown : next.shutdown = session.shutdown)
    (values : next.state.values = session.state.values)
    (outcome : ∀ worker, session.workers[position]? = some worker →
      next.outcomeOf worker = session.outcomeOf worker) :
    Accompanied setup first position account next := by
  obtain ⟨solo, worker, fellow, run, mirrors⟩ := company
  exact ⟨solo, worker, fellow, run, {
    found := found.trans mirrors.found
    there := mirrors.there
    core := mirrors.core
    now := now.trans mirrors.now
    shutdown := shutdown.trans mirrors.shutdown
    sources := by
      rw [values]
      exact mirrors.sources
    outcome := (outcome worker mirrors.found).trans mirrors.outcome }⟩

/-- Whoever writes, the worker alone is told what touches its sources. -/
theorem accompanied_writes (worker : Worker) (writes : List (String × FormValue))
    (account : Account) (session : Session)
    (company : Accompanied setup first position account session)
    (found : session.workers[position]? = some worker) :
    Accompanied setup first position
      (account.hear session.now (concerning worker.integration.sources writes))
      { session with state := writeAll writes session.state } := by
  induction writes generalizing account session with
  | nil =>
      rw [concerning, List.filter_nil, List.map_nil, Account.hear_nothing]
      exact company
  | cons entry rest ih =>
      obtain ⟨solo, own, fellow, run, mirrors⟩ := company
      obtain rfl := Option.some.inj (mirrors.found.symm.trans found)
      have integration := mirrors_integration position session solo own fellow mirrors
      by_cases touched : touches own.integration.sources entry.1 = true
      · have told := Alone.told account solo fellow (.write entry.1 entry.2) run mirrors.there
          (by rw [Concern.Applies, integration]; exact touched)
        have written : Accompanied setup first position
            (account.hear session.now [.write entry.1 entry.2])
            (session.setValue entry.1 entry.2) := by
          rw [mirrors.now]
          refine ⟨_, own, fellow, told, { mirrors with sources := ?_ }⟩
          intro source read
          exact FormState.source_set_alike entry.1 source entry.2 session.state solo.state
            (mirrors.sources source read)
        have told : concerning own.integration.sources (entry :: rest) =
            [.write entry.1 entry.2] ++ concerning own.integration.sources rest := by
          simp [concerning, touched]
        rw [told, Account.hear_more]
        exact ih _ (session.setValue entry.1 entry.2) written found
      · have untouched : touches own.integration.sources entry.1 = false := by simpa using touched
        have passed : concerning own.integration.sources (entry :: rest) =
            concerning own.integration.sources rest := by
          simp [concerning, untouched]
        have apart : Accompanied setup first position account (session.setValue entry.1 entry.2) := by
          refine ⟨solo, own, fellow, run, { mirrors with sources := ?_ }⟩
          intro source read
          have kept := FormState.source_set_apart entry.1 source entry.2 session.state
            (touches_none _ _ untouched source read)
          exact kept.trans (mirrors.sources source read)
        rw [passed]
        exact ih account (session.setValue entry.1 entry.2) apart found

theorem accompanied_reset (values : FormValues) (account : Account) (session : Session)
    (company : Accompanied setup first position account session) :
    Accompanied setup first position (account.hear session.now [.reset values])
      (session.reset values) := by
  obtain ⟨solo, worker, fellow, run, mirrors⟩ := company
  have told := Alone.told account solo fellow (.reset values) run mirrors.there trivial
  have held : ∀ state : FormState, (state.reset values).values = values := by
    intro state
    unfold FormState.reset
    split
    · assumption
    · rfl
  rw [mirrors.now]
  refine ⟨_, worker, fellow, told, { mirrors with sources := ?_ }⟩
  intro source _
  exact congrArg (fun values => FormValues.source values source)
    ((held session.state).trans (held solo.state).symm)

theorem accompanied_teardown (account : Account) (session : Session)
    (company : Accompanied setup first position account session) :
    Accompanied setup first position (account.hear session.now [.teardown]) session.cancelAll := by
  obtain ⟨solo, worker, fellow, run, mirrors⟩ := company
  have told := Alone.told account solo fellow .teardown run mirrors.there trivial
  rw [mirrors.now]
  exact ⟨_, worker, fellow, told, { mirrors with shutdown := rfl }⟩

theorem accompanied_drop (account : Account) (session : Session)
    (company : Accompanied setup first position account session) :
    Accompanied setup first position (account.hear session.now [.drop]) session.discard := by
  obtain ⟨solo, worker, fellow, run, mirrors⟩ := company
  have told := Alone.told account solo fellow .drop run mirrors.there trivial
  rw [mirrors.now]
  refine ⟨_, { worker with stage := .ended }, { fellow with stage := .ended }, told, ?_⟩
  exact {
    found := by simp [Session.discard, mirrors.found]
    there := by simp [Session.told, Session.discard, mirrors.there]
    core := congrArg (fun core : Worker => { core with stage := .ended }) mirrors.core
    now := mirrors.now
    shutdown := rfl
    sources := mirrors.sources
    outcome := mirrors.outcome }

end Company

section Sound

variable (setup : Setup) (values : FormValues) (pace : Nat)

theorem course_sound (integrations : List FormEngine.Integration) (position : Nat)
    (told : List Telling) (account : Account) (session : Session)
    (run : Course setup position (Session.create values pace integrations) told account session) :
    Consistent setup session ∧ Ordered integrations session := by
  have reached := course_reachable setup position _ session told account run
  exact ⟨reachable_consistent setup values pace integrations session reached,
    reachable_ordered setup values pace integrations session reached⟩

variable (integration : FormEngine.Integration) (account : Account) (solo : Session)
  (run : Alone setup (Session.create values pace [integration]) account solo)

include run

theorem alone_sound : Consistent setup solo ∧ Ordered [integration] solo := by
  obtain ⟨told, course⟩ := alone_course setup _ solo account run
  exact course_sound setup values pace [integration] 0 told account solo course

theorem glanced_sound :
    Consistent setup (solo.glanced setup) ∧ Ordered [integration] (solo.glanced setup) := by
  obtain ⟨told, course⟩ := alone_course setup _ solo account run
  obtain ⟨told, glanced⟩ := glanced_course setup _ solo account told course
  exact course_sound setup values pace [integration] 0 told account (solo.glanced setup) glanced

end Sound

section Turns

variable (setup : Setup) (values : FormValues) (pace : Nat) (integration : FormEngine.Integration)
  (position : Nat)

theorem accompanied_answer (worker : Worker) (number : Nat) (call after : Lookup.Call)
    (account : Account) (session : Session)
    (company : Accompanied setup (Session.create values pace [integration]) position account session)
    (known : session.calls[number]? = some call) (live : call.outcome = none)
    (found : session.workers[position]? = some worker) :
    Accompanied setup (Session.create values pace [integration]) position
      (account.hear session.now
        (heard setup position session worker (.answer number after)))
      { session with calls := session.calls.set number after } := by
  have inside := (List.getElem?_eq_some_iff.mp known).1
  by_cases own : worker.inFlight = some number
  · simp only [heard, own, ↓reduceIte]
    cases ended : after.outcome with
    | none =>
        rw [Option.toList_none, List.map_nil, Account.hear_nothing]
        refine accompanied_aside setup _ position account session _ company rfl rfl rfl rfl ?_
        intro same there
        obtain rfl := Option.some.inj (there.symm.trans found)
        have unanswered : session.calls[number].outcome = none := by
          rw [← live, Option.some.inj ((List.getElem?_eq_getElem inside).symm.trans known)]
        simp [Session.outcomeOf, own, inside, ended, unanswered]
    | some outcome =>
        obtain ⟨solo, same, fellow, run, mirrors⟩ := company
        obtain rfl := Option.some.inj (mirrors.found.symm.trans found)
        obtain ⟨under, held⟩ : ∃ under, fellow.inFlight = some under := by
          have core := congrArg Worker.inFlight mirrors.core
          apply Option.isSome_iff_exists.mp
          simpa [Worker.core, own] using (congrArg Option.isSome core).symm
        have listed := (alone_sound setup values pace integration account solo run).1.known 0
          fellow under mirrors.there held
        have pending : (solo.calls[under]).outcome = none := by
          have same := mirrors.outcome
          simpa [Session.outcomeOf, own, known, live, held, listed] using same.symm
        have told : Alone setup (Session.create values pace [integration])
            (account.hear session.now [.answer outcome]) (solo.told (.answer outcome)) := by
          rw [mirrors.now]
          exact .told account solo fellow (.answer outcome) run mirrors.there
            ⟨under, _, held, List.getElem?_eq_getElem listed, pending⟩
        rw [Option.toList_some, List.map_singleton]
        have tells : solo.told (.answer outcome) =
            { solo with
              calls := solo.calls.set under { solo.calls[under] with outcome := some outcome } } := by
          simp [Session.told, mirrors.there, held, listed]
        rw [tells] at told
        refine ⟨_, same, fellow, told, { mirrors with outcome := ?_ }⟩
        simp [Session.outcomeOf, own, held, inside, listed, ended]
  · simp only [heard, own, ↓reduceIte, Account.hear_nothing]
    refine accompanied_aside setup _ position account session _ company rfl rfl rfl rfl ?_
    intro same there
    obtain rfl := Option.some.inj (there.symm.trans found)
    unfold Session.outcomeOf
    cases held : same.inFlight with
    | none => rfl
    | some under =>
        have different : number ≠ under := by
          rintro rfl
          exact own held
        simp [different]

/-- A turn of the worker that is more than a look is made by the worker alone too. -/
theorem accompanied_acted (integrations : List FormEngine.Integration) (worker : Worker)
    (turn : Worker × List Effect) (account : Account) (session : Session)
    (company : Accompanied setup (Session.create values pace [integration]) position account session)
    (consistent : Consistent setup session) (ordered : Ordered integrations session)
    (found : session.workers[position]? = some worker)
    (attentive : worker.overlooks (session.viewOf setup worker) = false)
    (taken : session.turnAt setup position = some turn) :
    Accompanied setup (Session.create values pace [integration]) position
      (account.act session.now turn.2) (session.carry position turn) := by
  obtain ⟨solo, own, _, run, before⟩ := company
  obtain rfl := Option.some.inj (before.found.symm.trans found)
  obtain ⟨fellow, mirrors, awake⟩ := mirrors_glanced setup position session solo own _ before
  obtain ⟨sound, lone⟩ := glanced_sound setup values pace integration account solo run
  have alike := mirrors_turn setup position session (solo.glanced setup) own fellow mirrors
    (consistent.running position own found) (sound.running 0 fellow mirrors.there) attentive awake
  rw [taken, Option.map_some] at alike
  obtain ⟨other, took, same⟩ := Option.map_eq_some_iff.mp alike.symm
  have reports : account.act session.now turn.2 = account.act solo.now other.2 := by
    have effects : turn.2.map Effect.core = other.2.map Effect.core :=
      (congrArg Prod.snd same).symm
    rw [Account.act, Account.act, reportOf, reportOf, before.now, ← launched_core turn.2,
      ← happenings_core turn.2, ← written_core turn.2, effects, launched_core, happenings_core,
      written_core]
  have runs : turn.1.integration = own.integration := by
    rw [turn_at setup position session own found] at taken
    exact took_integration _ own turn.1 _ (turn_took _ own turn.1 turn.2 taken)
  have ended := acted_outcome setup position session own turn (ordered.orderly position own found)
    found attentive taken
  have done := acted_outcome setup 0 (solo.glanced setup) fellow other
    (lone.orderly 0 fellow mirrors.there) mirrors.there awake took
  rw [reports]
  exact ⟨_, turn.1, other.1, .acted account solo other run took,
    mirrors_carry position session _ own fellow mirrors turn other same.symm runs ended done⟩

-- A worker that rests has nothing to overlook.
theorem rests_alone (account : Account) (session solo : Session) (worker fellow : Worker)
    (consistent : Consistent setup session)
    (run : Alone setup (Session.create values pace [integration]) account solo)
    (mirrors : Mirrors position session solo worker fellow)
    (rests : session.turnAt setup position = none) :
    (solo.glanced setup).turnAt setup 0 = none := by
  obtain ⟨other, alike, awake⟩ := mirrors_glanced setup position session solo worker fellow mirrors
  obtain ⟨sound, _⟩ := glanced_sound setup values pace integration account solo run
  have attentive : worker.overlooks (session.viewOf setup worker) = false := by
    cases overlooks : worker.overlooks (session.viewOf setup worker) with
    | false => rfl
    | true =>
        rw [turn_at setup position session worker mirrors.found,
          overlooking_turn _ worker overlooks] at rests
        simp at rests
  have same := mirrors_turn setup position session (solo.glanced setup) worker other alike
    (consistent.running position worker mirrors.found) (sound.running 0 other alike.there)
    attentive awake
  rw [rests, Option.map_none] at same
  exact Option.map_eq_none_iff.mp same.symm

/-- While the worker rests, the clock of the worker alone ticks. -/
theorem accompanied_ticks (account : Account) (session : Session)
    (company : Accompanied setup (Session.create values pace [integration]) position account session)
    (consistent : Consistent setup session) (ticks : Nat)
    (rests : ∀ tick < ticks,
      Session.turnAt setup { session with now := session.now + tick } position = none) :
    Accompanied setup (Session.create values pace [integration]) position
      (account.later session.now (session.now + ticks))
      { session with now := session.now + ticks } := by
  induction ticks with
  | zero => simpa [Account.later] using company
  | succ ticks ih =>
      obtain ⟨solo, worker, _, run, before⟩ :=
        ih fun tick early => rests tick (Nat.lt_succ_of_lt early)
      have still := rests ticks (Nat.lt_succ_self ticks)
      have later := consistent_later setup session { session with now := session.now + ticks }
        consistent rfl (advances_refl _) (keeps_same session _ rfl)
      have quiet := rests_alone setup values pace integration position _ _ solo worker _ later run
        before still
      have ticked := Alone.ticked _ solo _ run before.there quiet
      obtain ⟨fellow, mirrors, _⟩ := mirrors_glanced setup position _ solo worker _ before
      have place : { account.later session.now (session.now + ticks) with place := 0 } =
          account.later session.now (session.now + (ticks + 1)) := by
        unfold Account.later
        split <;> simp
      rw [place] at ticked
      refine ⟨_, worker, fellow, ticked, { mirrors with now := ?_ }⟩
      exact congrArg Nat.succ before.now

theorem accompanied_elapse (worker : Worker) (account : Account) (session : Session) (later : Nat)
    (company : Accompanied setup (Session.create values pace [integration]) position account session)
    (consistent : Consistent setup session) (found : session.workers[position]? = some worker)
    (forward : session.now ≤ later) (punctual : Punctual setup position session (.elapse later)) :
    Accompanied setup (Session.create values pace [integration]) position
      (account.later session.now later) { session with now := later } := by
  have reached : session.now + (later - session.now) = later := Nat.add_sub_cancel' forward
  have ticked := accompanied_ticks setup values pace integration position account session
    company consistent (later - session.now) fun tick early =>
      rest_until setup position session worker later _ found punctual (by omega)
  rw [reached] at ticked
  exact ticked

theorem accompanied_work (integrations : List FormEngine.Integration) (worker : Worker)
    (account : Account) (session next : Session) (other : Nat)
    (company : Accompanied setup (Session.create values pace [integration]) position account session)
    (consistent : Consistent setup session) (ordered : Ordered integrations session)
    (found : session.workers[position]? = some worker)
    (turn : session.workerTurn? setup other = some next) :
    Accompanied setup (Session.create values pace [integration]) position
      (account.follow setup position session (.work other)) next := by
  rw [worker_turn_at] at turn
  obtain ⟨taken, took, rfl⟩ := Option.map_eq_some_iff.mp turn
  by_cases own : other = position
  · subst own
    cases overlooks : worker.overlooks (session.viewOf setup worker) with
    | false =>
        rw [follow_acted setup session account other worker taken found overlooks took]
        exact accompanied_acted setup values pace integration other integrations worker taken account
          session company consistent ordered found overlooks took
    | true =>
        rw [follow_overlooked setup session account other worker found overlooks]
        rw [turn_at setup other session worker found, overlooking_turn _ worker overlooks] at took
        obtain rfl := Option.some.inj took
        obtain ⟨solo, same, fellow, run, mirrors⟩ := company
        obtain rfl := Option.some.inj (mirrors.found.symm.trans found)
        have inside := (List.getElem?_eq_some_iff.mp found).1
        refine ⟨solo, { same with receiver := session.state.subscribe }, fellow, run,
          { mirrors with found := ?_ }⟩
        simp [Session.carry, inside, Session.viewOf]
  · have hears : account.follow setup position session (.work other) = account.hear session.now
        (concerning worker.integration.sources (session.writesAt setup other)) := by
      rw [follow_hear setup session account position worker (.work other) found
        (by simp [acted, own]) (by simp)]
      simp [heard, own]
    have told := accompanied_writes setup _ position worker (session.writesAt setup other) account
      session company found
    have values := (work_writes setup other session _ (by rw [worker_turn_at, took]; rfl)).1
    obtain ⟨mover, against, taken_eq⟩ := Option.bind_eq_some_iff.mp took
    have moved := turn_took _ mover taken.1 taken.2 taken_eq
    rw [hears]
    refine accompanied_aside setup _ position _ _ _ told ?_ (carry_now other session taken) ?_ values
      ?_
    · simp [carry_eq, own]
    · rw [carry_eq]
    · intro same there
      obtain rfl := Option.some.inj (there.symm.trans found)
      unfold Session.outcomeOf
      cases held : same.inFlight with
      | none => rfl
      | some number =>
          have known := consistent.known position same number found held
          exact outcome_kept setup session mover taken.1 _ moved _ (by rw [carry_eq]) number known

end Turns

section Courses

variable (setup : Setup) (values beginning : FormValues) (pace fallback : Nat)
  (integration : FormEngine.Integration) (integrations : List FormEngine.Integration)
  (position : Nat) (listed : integrations[position]? = some integration)
  (paced : integration.effectiveDebounce fallback = integration.effectiveDebounce pace)
  (alike : ∀ source ∈ integration.sources, beginning.source source = values.source source)

include listed paced alike

theorem accompanied_created :
    Accompanied setup (Session.create values pace [integration]) position ⟨[], 0, []⟩
      (Session.create beginning fallback integrations) := by
  refine ⟨_, Worker.create position fallback integration, Worker.create 0 pace integration, .start,
    ?_⟩
  exact {
    found := by simp [Session.create, listed]
    there := rfl
    core := by simp [Worker.create, Worker.core, paced]
    now := rfl
    shutdown := rfl
    sources := alike
    outcome := rfl }

/-- Whatever a session is told, its worker does as it would alone. -/
theorem course_accompanied (told : List Telling) (account : Account) (session : Session)
    (run : Course setup position (Session.create beginning fallback integrations) told account
      session) :
    Accompanied setup (Session.create values pace [integration]) position account session := by
  induction run with
  | start =>
      exact accompanied_created setup values beginning pace fallback integration integrations
        position listed paced alike
  | step told account session next move run step punctual ih =>
      obtain ⟨worker, found⟩ : ∃ worker, session.workers[position]? = some worker := by
        obtain ⟨_, worker, _, _, mirrors⟩ := ih
        exact ⟨worker, mirrors.found⟩
      obtain ⟨consistent, ordered⟩ :=
        course_sound setup beginning fallback integrations position told account session run
      cases step with
      | write path value =>
          rw [follow_hear setup session account position worker _ found rfl (by simp)]
          exact accompanied_writes setup _ position worker [(path, value)] account session ih found
      | reset values =>
          rw [follow_hear setup session account position worker _ found rfl (by simp)]
          exact accompanied_reset setup _ position values account session ih
      | elapse later forward =>
          rw [follow_elapse setup session account position worker later found]
          exact accompanied_elapse setup values pace integration position worker account session
            later ih consistent found forward punctual
      | cancelAll =>
          rw [follow_hear setup session account position worker _ found rfl (by simp)]
          exact accompanied_teardown setup _ position account session ih
      | discard =>
          rw [follow_hear setup session account position worker _ found rfl (by simp)]
          exact accompanied_drop setup _ position account session ih
      | work other next turn =>
          exact accompanied_work setup values pace integration position integrations worker account
            session next other ih consistent ordered found turn
      | answer number call after known live same =>
          rw [follow_hear setup session account position worker _ found rfl (by simp)]
          exact accompanied_answer setup values pace integration position worker number call after
            account session ih known live found

end Courses

end FormEngine.Integration
