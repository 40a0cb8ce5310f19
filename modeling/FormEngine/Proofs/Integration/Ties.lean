import FormEngine.Proofs.Integration.Company

/-!
Tellings that do not tie. Where no two things that concern a worker come at one instant, and nothing
but an answer comes when it starts or when a delay can end, the worker is at rest whenever it is told
something. What it was told at what time then tells the places as well.
-/

namespace FormEngine.Integration

/-- Whether a worker is told how its call ended. -/
def Telling.answers (telling : Telling) : Bool :=
  telling.concerns.any fun concern =>
    match concern with
    | .answer _ => true
    | _ => false

/-- Tellings without ties for a worker that starts at time 0 and has this delay. Answers may come when
a delay ends, as a call can end at once. -/
structure Spaced (delay : Nat) (told : List Telling) : Prop where
  rising : told.Pairwise fun first second => first.time < second.time
  begun : ∀ telling ∈ told, telling.answers = false → telling.time ≠ 0 ∧ telling.time ≠ delay
  waited : told.Pairwise fun first second =>
    second.answers = false → second.time ≠ first.time + delay

/-- The instants from which a delay can count: the start, and whenever something was told. -/
def origins (times : List Nat) : List Nat := 0 :: times

theorem spaced_last (delay : Nat) (earlier : List Telling) (last : Telling)
    (spaced : Spaced delay (earlier ++ [last])) :
    Spaced delay earlier ∧ (∀ telling ∈ earlier, telling.time < last.time) ∧
      (last.answers = false → last.time ≠ 0 ∧
        ∀ time ∈ origins (earlier.map Telling.time), last.time ≠ time + delay) := by
  obtain ⟨rising, begun, waited⟩ := spaced
  obtain ⟨before, _, ahead⟩ := List.pairwise_append.mp rising
  obtain ⟨apart, _, later⟩ := List.pairwise_append.mp waited
  refine ⟨⟨before, fun telling listed => begun telling (by simp [listed]), apart⟩,
    fun telling listed => ahead telling listed last (by simp), ?_⟩
  intro outside
  obtain ⟨started, first⟩ := begun last (by simp) outside
  refine ⟨started, ?_⟩
  intro time listed
  rcases List.mem_cons.mp listed with rfl | told
  · rwa [Nat.zero_add]
  · obtain ⟨telling, known, rfl⟩ := List.mem_map.mp told
    exact later telling known last (by simp) outside

section Notices

variable (setup : Setup) (position : Nat)

theorem hear_notices (session : Session) (move : Move) (account : Account) (worker : Worker)
    (found : session.workers[position]? = some worker) :
    (account.hear session.now (heard setup position session worker move)).notices =
      account.notices ++ (session.tellings setup position move).flatMap fun telling =>
        telling.concerns.map fun concern => ⟨telling.time, account.place, concern⟩ := by
  simp only [Session.tellings, found, Account.hear]
  cases heard setup position session worker move <;> simp

/-- An account notes what was told, and its place. -/
theorem follow_notices (session : Session) (move : Move) (account : Account) :
    (account.follow setup position session move).notices =
      account.notices ++ (session.tellings setup position move).flatMap fun telling =>
        telling.concerns.map fun concern => ⟨telling.time, account.place, concern⟩ := by
  cases found : session.workers[position]? with
  | none => simp [Account.follow, Session.tellings, found]
  | some worker =>
      rw [← hear_notices setup position session move account worker found]
      simp only [Account.follow, found]
      cases move with
      | work other =>
          by_cases own : other = position
          · have silent : heard setup position session worker (.work other) = [] := by
              simp [heard, own]
            rw [silent, Account.hear_nothing]
            split
            · rfl
            · simp [silent]
          · simp only [acted, own, false_and, ↓reduceIte]
      | elapse later =>
          simp only [acted, heard, Account.hear_nothing, Account.later]
          split <;> rfl
      | _ => rfl

/-- The account of a course notes only what was told in it. -/
theorem course_notices (first session : Session) (told : List Telling) (account : Account)
    (run : Course setup position first told account session) :
    ∀ notice ∈ account.notices, ∃ telling ∈ told, notice.time = telling.time := by
  induction run with
  | start => simp
  | step told account session next move _ _ _ ih =>
      rw [follow_notices]
      intro notice listed
      rcases List.mem_append.mp listed with old | new
      · obtain ⟨telling, known, same⟩ := ih notice old
        exact ⟨telling, List.mem_append_left _ known, same⟩
      · obtain ⟨telling, known, listed⟩ := List.mem_flatMap.mp new
        obtain ⟨_, _, rfl⟩ := List.mem_map.mp listed
        exact ⟨telling, List.mem_append_right _ known, rfl⟩

theorem tellings_cases (session : Session) (move : Move) :
    session.tellings setup position move = [] ∨
      ∃ worker, session.workers[position]? = some worker ∧
        session.tellings setup position move =
          [⟨session.now, heard setup position session worker move⟩] := by
  unfold Session.tellings
  cases session.workers[position]? with
  | none => exact Or.inl rfl
  | some worker =>
      dsimp only
      split
      · exact Or.inl rfl
      · exact Or.inr ⟨worker, rfl, rfl⟩

theorem concerning_outside (sources : List String) (writes : List (String × FormValue)) (time : Nat) :
    Telling.answers ⟨time, concerning sources writes⟩ = false := by
  simp [Telling.answers, concerning]

/-- Only a worker with a call under way is told an answer. -/
theorem answered_calls (session : Session) (worker : Worker) (move : Move)
    (answers : Telling.answers ⟨session.now, heard setup position session worker move⟩ = true) :
    worker.inFlight.isSome = true := by
  cases move with
  | write path value => simp [heard, concerning_outside] at answers
  | work other =>
      simp only [heard] at answers
      split at answers
      · simp [Telling.answers] at answers
      · simp [concerning_outside] at answers
  | answer number call =>
      simp only [heard] at answers
      split at answers
      · rename_i own
        rw [own]
        rfl
      · simp [Telling.answers] at answers
  | _ => simp [heard, Telling.answers] at answers

/-- A course up to its last telling. -/
theorem course_last (first session : Session) (told earlier : List Telling) (last : Telling)
    (account : Account) (run : Course setup position first told account session)
    (same : told = earlier ++ [last]) :
    ∃ before there worker, Course setup position first earlier before there ∧
      there.now = last.time ∧ there.workers[position]? = some worker ∧
      (last.answers = true → worker.inFlight.isSome = true) ∧
      account.notices = before.notices ++
        last.concerns.map fun concern => ⟨last.time, before.place, concern⟩ := by
  induction run with
  | start => simp at same
  | step told account session next move run _ _ ih =>
      rw [follow_notices]
      rcases tellings_cases setup position session move with
        quiet | ⟨worker, found, tells⟩
      · rw [quiet, List.append_nil] at same
        rw [quiet, List.flatMap_nil, List.append_nil]
        exact ih same
      · rw [tells] at same ⊢
        obtain ⟨rfl, finish⟩ := List.append_inj' same rfl
        obtain rfl := List.singleton_inj.mp finish
        exact ⟨account, session, worker, run, rfl, found,
          answered_calls setup position session worker move, by simp⟩

end Notices

section Rest

/-- Nothing was told at the present time. -/
def Silent (account : Account) (session : Session) : Prop :=
  session.now ∉ account.notices.map Notice.time

/-- What the clock says of a worker alone. Its delays count from what it was told, and what it was
told at earlier times has been dealt with. -/
structure Timekept (delay : Nat) (account : Account) (session : Session) (worker : Worker) :
    Prop where
  paced : worker.debounce = delay
  starting : worker.stage = .waiting → session.now = 0
  pending : worker.stage = .running → ∀ deadline, worker.deadline = some deadline →
    session.now ≤ deadline ∧
      ∃ time ∈ origins (account.notices.map Notice.time), deadline = time + delay
  live : Silent account session → worker.stage ≠ .ended → session.shutdown = false
  settled : Silent account session → worker.stage = .running →
    session.state.watch worker.integration.sources = worker.observed ∧
      session.outcomeOf worker = none

variable (setup : Setup) (delay : Nat) (account : Account) (session : Session) (worker : Worker)

theorem timekept_glanced (timekept : Timekept delay account session worker) (receiver : Receiver) :
    Timekept delay account (session.glanced setup) { worker with receiver } := by
  have now := glanced_now setup session
  obtain ⟨shutdown, state, calls⟩ := glanced_kept setup session
  have outcome : (session.glanced setup).outcomeOf { worker with receiver } =
      session.outcomeOf worker := by
    simp only [Session.outcomeOf, calls]
  obtain ⟨paced, starting, pending, live, settled⟩ := timekept
  have silent : Silent account (session.glanced setup) → Silent account session := by
    unfold Silent
    rw [now]
    exact id
  refine ⟨paced, ?_, ?_, ?_, ?_⟩
  · rw [now]
    exact starting
  · rw [now]
    exact pending
  · rw [shutdown]
    exact fun quiet => live (silent quiet)
  · rw [state, outcome]
    exact fun quiet => settled (silent quiet)

theorem told_worker (concern : Concern)
    (found : (session.told concern).workers[0]? = some worker) :
    ∃ before, session.workers[0]? = some before ∧
      (worker = before ∨ worker = { before with stage := .ended }) := by
  cases concern with
  | drop =>
      obtain ⟨before, there, same⟩ := discard_worker session 0 worker found
      exact ⟨before, there, Or.inr same⟩
  | answer outcome =>
      refine ⟨worker, ?_, Or.inl rfl⟩
      unfold Session.told at found
      dsimp only at found
      split at found
      · exact found
      · split at found <;> exact found
  | _ => exact ⟨worker, found, Or.inl rfl⟩

-- Something was told just now, so nothing need have been dealt with.
theorem timekept_told (before : Worker) (concern : Concern)
    (timekept : Timekept delay account session before)
    (same : worker = before ∨ worker = { before with stage := .ended }) :
    Timekept delay (account.hear session.now [concern]) (session.told concern) worker := by
  have loud : ¬ Silent (account.hear session.now [concern]) (session.told concern) := by
    simp [Silent, Account.hear, told_now]
  refine ⟨?_, ?_, ?_, fun silent => absurd silent loud, fun silent => absurd silent loud⟩
  · rcases same with rfl | rfl <;> exact timekept.paced
  · rw [told_now]
    intro stage
    rcases same with rfl | rfl
    · exact timekept.starting stage
    · simp at stage
  · rw [told_now]
    intro stage deadline waits
    rcases same with rfl | rfl
    · obtain ⟨ahead, time, origin, same⟩ := timekept.pending stage deadline waits
      refine ⟨ahead, time, ?_, same⟩
      rcases List.mem_cons.mp origin with start | told
      · exact List.mem_cons.mpr (Or.inl start)
      · exact List.mem_cons.mpr (Or.inr (by simp [Account.hear, told]))
    · simp at stage

theorem took_paced (view : View) (after : Worker) (acts : List Effect)
    (took : Took view worker after acts) : after.debounce = worker.debounce := by
  cases took with
  | started _ _ _ same => rw [same]
  | noticed _ _ _ _ _ same => rw [same]
  | _ => rfl

/-- A worker that is running and has no turn to take is up to date. -/
theorem rests_settled (view : View) (rests : worker.turn? view = none)
    (running : worker.stage = .running) :
    view.shutdown = false ∧ worker.receiver.seen = view.state.changes ∧
      (worker.inFlight.isSome = true → view.outcome = none) := by
  simp only [Worker.turn?, running] at rests
  split at rests
  · simp at rests
  · rename_i live
    split at rests
    · simp at rests
    · rename_i seen
      refine ⟨by simpa using live, Classical.not_not.mp seen, ?_⟩
      intro underWay
      split at rests
      · simp at rests
      · cases ended : view.outcome with
        | none => rfl
        | some outcome => simp [ended] at rests

theorem timekept_ticked (timekept : Timekept delay account session worker)
    (attends : worker.stage = .running → Attends setup session worker)
    (found : session.workers[0]? = some worker) (rests : session.turnAt setup 0 = none) :
    Timekept delay { account with place := 0 } { session with now := session.now + 1 } worker := by
  have still : session.workerTurn? setup 0 = none := by rw [worker_turn_at, rests, Option.map_none]
  rw [turn_at setup 0 session worker found] at rests
  have begun : worker.stage ≠ .waiting := by
    intro waiting
    simp [Worker.turn?, waiting] at rests
  refine ⟨timekept.paced, fun waiting => absurd waiting begun, ?_, ?_, ?_⟩
  · intro running deadline waits
    exact ⟨rest_before_deadline setup 0 session worker found still running deadline waits,
      (timekept.pending running deadline waits).2⟩
  · intro _ alive
    cases stage : worker.stage with
    | waiting => exact absurd stage begun
    | running => exact (rests_settled worker _ rests stage).1
    | ended => exact absurd stage alive
  · intro _ running
    obtain ⟨_, seen, ended⟩ := rests_settled worker _ rests running
    refine ⟨((attends running).fresh seen).symm, ?_⟩
    cases underWay : worker.inFlight with
    | none => simp [Session.outcomeOf, underWay]
    | some number => exact ended (by rw [underWay]; rfl)

theorem watch_deeds (acts : List Effect) (state : FormState) (paths : List String)
    (silent : written acts = []) :
    (acts.foldl Effect.onState state).watch paths = state.watch paths := by
  have same := (performed_writes acts state state ⟨rfl, rfl⟩).1
  rw [silent] at same
  unfold FormState.watch
  rw [same]
  rfl

/-- A deadline after a turn is an old one, or counts from the start or from a change. -/
theorem took_delays (view : View) (after : Worker) (acts : List Effect)
    (took : Took view worker after acts) (running : after.stage = .running) (deadline : Nat)
    (waits : after.deadline = some deadline) :
    (worker.stage = .running ∧ worker.deadline = some deadline) ∨
      (deadline = view.now + worker.debounce ∧
        (worker.stage = .waiting ∨ (worker.stage = .running ∧
          view.state.watch worker.integration.sources ≠ worker.observed))) := by
  have counts : ∀ next : Worker, next.debounce = worker.debounce →
      next.nextDeadline view.now = some deadline → deadline = view.now + worker.debounce := by
    intro next paced counted
    unfold Worker.nextDeadline at counted
    split at counted
    · rw [← paced]
      exact (Option.some.inj counted).symm
    · simp at counted
  cases took with
  | retired => simp at running
  | started stage _ next same => exact Or.inr ⟨counts next (by rw [same]) waits, Or.inl stage⟩
  | stopped => simp at running
  | overlooked stage => exact Or.inl ⟨stage, waits⟩
  | noticed stage _ _ changed next same =>
      exact Or.inr ⟨counts next (by rw [same]) waits, Or.inr ⟨stage, changed⟩⟩
  | launched => simp at waits
  | lapsed => simp at waits
  | completed _ _ stage => exact Or.inl ⟨stage, waits⟩

/-- Without a change and an outcome, a turn writes nothing and leaves the sources as seen. -/
theorem took_settled (view : View) (after : Worker) (acts : List Effect)
    (took : Took view worker after acts) (running : after.stage = .running)
    (settled : worker.stage = .running →
      view.state.watch worker.integration.sources = worker.observed ∧ view.outcome = none) :
    written acts = [] ∧ view.state.watch worker.integration.sources = after.observed := by
  cases took with
  | retired => simp at running
  | started _ _ next same => exact ⟨written_registered _, by rw [same]⟩
  | stopped => simp at running
  | overlooked stage => exact ⟨rfl, (settled stage).1⟩
  | noticed stage _ _ changed => exact absurd (settled stage).1 changed
  | launched _ _ stage => exact ⟨rfl, (settled stage).1⟩
  | lapsed _ stage => exact ⟨rfl, (settled stage).1⟩
  | completed _ _ stage _ _ _ ended => simp [(settled stage).2] at ended

/-- A turn that is more than a look either deals with something that was told just now, starts the
worker, or ends a delay. -/
theorem timekept_acted (turn : Worker × List Effect) (integrations : List FormEngine.Integration)
    (timekept : Timekept delay account session worker) (ordered : Ordered integrations session)
    (found : session.workers[0]? = some worker)
    (attentive : worker.overlooks (session.viewOf setup worker) = false)
    (taken : session.turnAt setup 0 = some turn) :
    Timekept delay (account.act session.now turn.2) (session.carry 0 turn) turn.1 := by
  have outcome := acted_outcome setup 0 session worker turn (ordered.orderly 0 worker found) found
    attentive taken
  rw [turn_at setup 0 session worker found] at taken
  have took := turn_took _ worker turn.1 turn.2 taken
  have paced := took_paced worker _ _ _ took
  have now := carry_now 0 session turn
  have silent : Silent (account.act session.now turn.2) (session.carry 0 turn) →
      Silent account session := by
    unfold Silent
    rw [now]
    exact id
  refine ⟨paced.trans timekept.paced, ?_, ?_, ?_, ?_⟩
  · exact fun waiting => absurd waiting (took_begun setup session worker turn.1 _ took)
  · rw [now]
    intro running deadline waits
    rcases took_delays worker _ turn.1 _ took running deadline waits with
      ⟨stage, old⟩ | ⟨rfl, fresh⟩
    · exact timekept.pending stage deadline old
    · refine ⟨Nat.le_add_right _ _, session.now, ?_, by rw [timekept.paced]; rfl⟩
      rcases fresh with stage | ⟨stage, changed⟩
      · rw [timekept.starting stage]
        exact List.mem_cons_self
      · have told : ¬ Silent account session := fun quiet =>
          changed (timekept.settled quiet stage).1
        exact List.mem_cons_of_mem 0 (Classical.not_not.mp told)
  · intro quiet _
    rw [carry_eq]
    refine timekept.live (silent quiet) ?_
    intro ended
    simp [Worker.turn?, ended] at taken
  · intro quiet running
    obtain ⟨wrote, observed⟩ := took_settled worker _ turn.1 _ took running
      (timekept.settled (silent quiet))
    refine ⟨?_, outcome⟩
    rw [carry_eq, took_integration _ worker turn.1 _ took]
    exact (watch_deeds _ _ _ wrote).trans observed

/-- A worker that was told nothing now and has nothing to overlook acts only to start or at the end
of a delay. -/
theorem timekept_turn (timekept : Timekept delay account session worker)
    (attends : worker.stage = .running → Attends setup session worker)
    (silent : Silent account session)
    (attentive : worker.overlooks (session.viewOf setup worker) = false)
    (busy : worker.turn? (session.viewOf setup worker) ≠ none) :
    (worker.stage = .waiting ∧ session.now = 0) ∨
      (worker.stage = .running ∧ worker.deadline.isSome = true ∧
        ∃ time ∈ origins (account.notices.map Notice.time), session.now = time + delay) := by
  cases stage : worker.stage with
  | ended => simp [Worker.turn?, stage] at busy
  | waiting => exact Or.inl ⟨rfl, timekept.starting stage⟩
  | running =>
      have live := timekept.live silent (by simp [stage])
      obtain ⟨watched, unanswered⟩ := timekept.settled silent stage
      have seen := (attentive_seen setup session worker stage live (attends stage) attentive).mpr
        watched
      have due : (worker.deadline.any fun deadline => decide (deadline ≤ session.now)) = true := by
        apply Classical.byContradiction
        intro early
        apply busy
        unfold Session.outcomeOf at unanswered
        simp [Worker.turn?, stage, Session.viewOf, live, seen, early, unanswered]
      obtain ⟨deadline, waits, reached⟩ := (Option.any_eq_true ..).mp due
      obtain ⟨ahead, time, origin, same⟩ := timekept.pending stage deadline waits
      refine Or.inr ⟨rfl, by rw [waits]; rfl, time, origin, ?_⟩
      exact (Nat.le_antisymm ahead (by simpa using reached)).trans same

end Rest

section Alone

variable (setup : Setup) (values : FormValues) (pace : Nat) (integration : FormEngine.Integration)

theorem alone_timekept (account : Account) (solo : Session)
    (run : Alone setup (Session.create values pace [integration]) account solo) (worker : Worker)
    (found : solo.workers[0]? = some worker) :
    Timekept (integration.effectiveDebounce pace) account solo worker := by
  induction run generalizing worker with
  | start =>
      obtain rfl : Worker.create 0 pace integration = worker := Option.some.inj found
      exact ⟨rfl, fun _ => rfl, fun running => by simp [Worker.create] at running, fun _ _ => rfl,
        fun _ running => by simp [Worker.create] at running⟩
  | told account session fellow concern _ _ _ ih =>
      obtain ⟨before, there, same⟩ := told_worker session worker concern found
      exact timekept_told _ account session worker before concern (ih before there) same
  | acted account session turn run taken ih =>
      obtain ⟨fellow, present⟩ : ∃ fellow, session.workers[0]? = some fellow := by
        cases present : session.workers[0]? with
        | some fellow => exact ⟨fellow, rfl⟩
        | none => simp [Session.turnAt, Session.glanced, present] at taken
      obtain ⟨receiver, there, attentive⟩ := glanced_worker setup session fellow present
      obtain ⟨_, ordered⟩ := glanced_sound setup values pace integration account session run
      have inside := (List.getElem?_eq_some_iff.mp there).1
      obtain rfl : turn.1 = worker := by simpa [carry_eq, inside] using found
      have acted := timekept_acted setup _ account (session.glanced setup) _ turn [integration]
        (timekept_glanced setup _ account session fellow (ih fellow present) receiver) ordered
        there attentive taken
      rwa [glanced_now] at acted
  | ticked account session fellow run present rests ih =>
      obtain ⟨receiver, there, _⟩ := glanced_worker setup session fellow present
      obtain ⟨consistent, _⟩ := glanced_sound setup values pace integration account session run
      obtain rfl := Option.some.inj (there.symm.trans found)
      have ticked := timekept_ticked setup _ account (session.glanced setup) _
        (timekept_glanced setup _ account session fellow (ih fellow present) receiver)
        (consistent.running 0 _ there) there rests
      rwa [glanced_now] at ticked

/-- A worker that is told nothing now acts only to start or at the end of a delay. -/
theorem silent_turn (account : Account) (solo : Session)
    (run : Alone setup (Session.create values pace [integration]) account solo) (worker : Worker)
    (found : solo.workers[0]? = some worker) (silent : Silent account solo)
    (busy : (solo.glanced setup).turnAt setup 0 ≠ none) :
    (worker.stage = .waiting ∧ solo.now = 0) ∨
      (worker.stage = .running ∧ worker.deadline.isSome = true ∧
        ∃ time ∈ origins (account.notices.map Notice.time),
          solo.now = time + integration.effectiveDebounce pace) := by
  obtain ⟨receiver, there, attentive⟩ := glanced_worker setup solo worker found
  obtain ⟨consistent, _⟩ := glanced_sound setup values pace integration account solo run
  have glanced := timekept_glanced setup _ account solo worker
    (alone_timekept setup values pace integration account solo run worker found) receiver
  have silent : Silent account (solo.glanced setup) := by
    unfold Silent
    rwa [glanced_now]
  rw [turn_at setup 0 _ _ there] at busy
  have acts := timekept_turn setup _ account (solo.glanced setup) { worker with receiver } glanced
    (consistent.running 0 _ there) silent attentive busy
  rwa [glanced_now] at acts

/-- Where tellings do not tie, the worker is at rest when it is told something. -/
theorem spaced_rests (account : Account) (solo : Session)
    (run : Alone setup (Session.create values pace [integration]) account solo) (worker : Worker)
    (found : solo.workers[0]? = some worker) (earlier : List Telling) (last : Telling)
    (spaced : Spaced (integration.effectiveDebounce pace) (earlier ++ [last]))
    (now : solo.now = last.time)
    (noted : ∀ notice ∈ account.notices, ∃ telling ∈ earlier, notice.time = telling.time)
    (calls : last.answers = true → worker.inFlight.isSome = true) :
    (solo.glanced setup).turnAt setup 0 = none := by
  obtain ⟨_, before, apart⟩ := spaced_last _ earlier last spaced
  obtain ⟨consistent, ordered⟩ := alone_sound setup values pace integration account solo run
  have times : ∀ time ∈ account.notices.map Notice.time, time ∈ earlier.map Telling.time := by
    intro time listed
    obtain ⟨notice, known, rfl⟩ := List.mem_map.mp listed
    obtain ⟨telling, told, same⟩ := noted notice known
    exact List.mem_map.mpr ⟨telling, told, same.symm⟩
  have silent : Silent account solo := by
    intro told
    obtain ⟨telling, known, same⟩ := List.mem_map.mp (times _ told)
    have early := before telling known
    omega
  apply Classical.byContradiction
  intro busy
  have acts := silent_turn setup values pace integration account solo run worker found silent busy
  cases answers : last.answers with
  | false =>
      obtain ⟨begun, waited⟩ := apart answers
      rcases acts with ⟨_, start⟩ | ⟨_, _, time, origin, due⟩
      · exact begun (now ▸ start)
      · refine waited time ?_ (now ▸ due)
        exact List.mem_cons.mpr ((List.mem_cons.mp origin).imp_right (times time))
  | true =>
      -- Before its start and while a delay is running, a worker has no call to be answered.
      have free : worker.inFlight = none := by
        rcases acts with ⟨waiting, _⟩ | ⟨running, waits, _⟩
        · exact consistent.waiting 0 worker found waiting
        · obtain ⟨phase, holds⟩ := (ordered.orderly 0 worker found).held running
          exact (holds_waiting worker phase holds waits).2.2.1
      simpa [free] using calls answers

end Alone

section Courses

variable (setup : Setup) (values beginning : FormValues) (pace fallback position place : Nat)
  (integration : FormEngine.Integration) (integrations company : List FormEngine.Integration)

/-- The worker of a course is at rest when it is told something, and so is the worker alone. -/
theorem course_rests (listed : company[place]? = some integration)
    (paced : integration.effectiveDebounce fallback = integration.effectiveDebounce pace)
    (alike : ∀ source ∈ integration.sources, beginning.source source = values.source source)
    (earlier : List Telling) (last : Telling) (before : Account) (there : Session) (worker : Worker)
    (run : Course setup place (Session.create beginning fallback company) earlier before there)
    (spaced : Spaced (integration.effectiveDebounce pace) (earlier ++ [last]))
    (now : there.now = last.time) (found : there.workers[place]? = some worker)
    (calls : last.answers = true → worker.inFlight.isSome = true) :
    ∃ solo, Alone setup (Session.create values pace [integration]) before solo ∧
      solo.now = last.time ∧ (solo.glanced setup).turnAt setup 0 = none := by
  obtain ⟨solo, own, fellow, alone, mirrors⟩ := course_accompanied setup values beginning pace
    fallback integration company place listed paced alike earlier before there run
  obtain rfl := Option.some.inj (mirrors.found.symm.trans found)
  have underWay : last.answers = true → fellow.inFlight.isSome = true := by
    intro answers
    have core := congrArg (fun core : Worker => core.inFlight.isSome) mirrors.core
    simpa [Worker.core, calls answers] using core
  have time := mirrors.now.symm.trans now
  exact ⟨solo, alone, time, spaced_rests setup values pace integration before solo alone fellow
    mirrors.there earlier last spaced time
    (course_notices setup place _ there earlier before run) underWay⟩

/-- Where tellings do not tie, what was told at what time tells the places. -/
theorem notices_alike (listed : integrations[position]? = some integration)
    (present : company[place]? = some integration)
    (paced : integration.effectiveDebounce fallback = integration.effectiveDebounce pace)
    (alike : ∀ source ∈ integration.sources, beginning.source source = values.source source)
    (told : List Telling) (account sibling : Account) (session other : Session)
    (run : Course setup position (Session.create values pace integrations) told account session)
    (again : Course setup place (Session.create beginning fallback company) told sibling other)
    (spaced : Spaced (integration.effectiveDebounce pace) told) :
    sibling.notices = account.notices := by
  induction run generalizing sibling other with
  | start =>
      have noted := course_notices setup place _ other [] sibling again
      exact List.eq_nil_iff_forall_not_mem.mpr fun notice listed => by simpa using noted notice listed
  | step told account session next move run _ _ ih =>
      rw [follow_notices]
      rcases tellings_cases setup position session move with quiet | ⟨worker, found, tells⟩
      · rw [quiet, List.append_nil] at again spaced
        rw [quiet, List.flatMap_nil, List.append_nil]
        exact ih sibling other again spaced
      · rw [tells] at again spaced ⊢
        obtain ⟨before, there, mate, reached, now, opposite, calls, notices⟩ :=
          course_last setup place _ other _ told _ sibling again rfl
        have same := ih before there reached (spaced_last _ told _ spaced).1
        obtain ⟨solo, alone, time, rests⟩ := course_rests setup values values pace pace position
          integration integrations listed rfl (fun _ _ => rfl) told _ account session worker run
          spaced rfl found (answered_calls setup position session worker move)
        obtain ⟨twin, apart, instant, restful⟩ := course_rests setup values beginning pace fallback
          place integration company present paced alike told _ before there mate reached spaced now
          opposite calls
        have determined := all_determined setup (Session.create values pace [integration])
        have times : twin.now = solo.now := instant.trans time.symm
        have ahead := rest_place setup _ solo account before twin alone apart (determined _) same
          times rests
        have behind := rest_place setup _ twin before account solo apart alone (determined _)
          same.symm times.symm restful
        rw [notices, same, Nat.le_antisymm ahead behind]
        simp

end Courses

end FormEngine.Integration
