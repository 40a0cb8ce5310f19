import FormEngine.Proofs.Integration.Concerns

/-!
An integration by itself. A session with one worker runs on a clock that ticks: the worker takes the
turns it has, is told what concerns it, and nothing else happens. Such a run is a course of that
session, and it is determined by what the worker is told, with times and places.
-/

namespace FormEngine.Integration

namespace Session

/-- The session after the turn of the worker at a position. -/
def carry (position : Nat) (turn : Worker × List Effect) (session : Session) : Session :=
  turn.2.foldl perform { session with workers := session.workers.set position turn.1 }

/-- The session after its only worker was told a concern. -/
def told (session : Session) : Concern → Session
  | .write path value => session.setValue path value
  | .reset values => session.reset values
  | .teardown => session.cancelAll
  | .drop => session.discard
  | .answer outcome =>
      match session.workers[0]?.bind Worker.inFlight with
      | none => session
      | some number =>
          match session.calls[number]? with
          | none => session
          | some call =>
              { session with
                calls := session.calls.set number { call with outcome := some outcome } }

/-- The session once its only worker has overlooked what there is to overlook. -/
def glanced (setup : Setup) (session : Session) : Session :=
  match session.workers[0]? with
  | none => session
  | some worker =>
      if worker.overlooks (session.viewOf setup worker) then
        session.carry 0 ({ worker with receiver := session.state.subscribe }, [])
      else session

end Session

/-- Only writes that touch a source, and answers to a call under way, are concerns. -/
def Concern.Applies (session : Session) (worker : Worker) : Concern → Prop
  | .write path _ => touches worker.integration.sources path = true
  | .answer _ =>
      ∃ number call, worker.inFlight = some number ∧ session.calls[number]? = some call ∧
        call.outcome = none
  | _ => True

inductive Alone (setup : Setup) (first : Session) : Account → Session → Prop where
  | start : Alone setup first ⟨[], 0, []⟩ first
  | told (account : Account) (session : Session) (worker : Worker) (concern : Concern)
      (run : Alone setup first account session) (found : session.workers[0]? = some worker)
      (applies : concern.Applies session worker) :
      Alone setup first (account.hear session.now [concern]) (session.told concern)
  | acted (account : Account) (session : Session) (turn : Worker × List Effect)
      (run : Alone setup first account session)
      (taken : (session.glanced setup).turnAt setup 0 = some turn) :
      Alone setup first (account.act session.now turn.2) ((session.glanced setup).carry 0 turn)
  | ticked (account : Account) (session : Session) (worker : Worker)
      (run : Alone setup first account session) (found : session.workers[0]? = some worker)
      (rests : (session.glanced setup).turnAt setup 0 = none) :
      Alone setup first { account with place := 0 }
        { session.glanced setup with now := session.now + 1 }

section Turns

variable (setup : Setup) (position : Nat) (session : Session)

theorem worker_turn_at :
    session.workerTurn? setup position =
      (session.turnAt setup position).map fun turn => session.carry position turn := by
  unfold Session.workerTurn? Session.turnAt
  cases session.workers[position]? with
  | none => rfl
  | some worker =>
      cases taken : worker.turn? (session.viewOf setup worker) with
      | none => simp [taken]
      | some turn =>
          simp [taken]
          rfl

theorem still_turn (rests : session.workerTurn? setup position = none) :
    session.turnAt setup position = none := by
  rw [worker_turn_at, Option.map_eq_none_iff] at rests
  exact rests

theorem carry_eq (turn : Worker × List Effect) :
    session.carry position turn =
      { session with
        workers := session.workers.set position turn.1
        state := (deeds turn.2).foldl Effect.onState session.state
        calls := (deeds turn.2).foldl Effect.onCalls session.calls
        events := session.events ++ records turn.2 } :=
  perform_effects turn.2 _

theorem carry_now (turn : Worker × List Effect) : (session.carry position turn).now = session.now := by
  rw [carry_eq]

theorem glanced_now : (session.glanced setup).now = session.now := by
  unfold Session.glanced
  split
  · rfl
  · split
    · exact carry_now 0 session _
    · rfl

/-- After one look nothing is left to overlook. -/
theorem glanced_worker (worker : Worker) (found : session.workers[0]? = some worker) :
    ∃ receiver, (session.glanced setup).workers[0]? = some { worker with receiver } ∧
      Worker.overlooks ((session.glanced setup).viewOf setup { worker with receiver })
        { worker with receiver } = false := by
  have inside := (List.getElem?_eq_some_iff.mp found).1
  unfold Session.glanced
  simp only [found]
  split
  · refine ⟨session.state.subscribe, ?_, ?_⟩
    · simp [carry_eq, inside]
    · simp [Worker.overlooks, carry_eq, Session.viewOf, FormState.subscribe, deeds]
  · rename_i attentive
    exact ⟨worker.receiver, found, by simpa using attentive⟩

/-- A look changes nothing that anybody else goes by. -/
theorem glanced_kept :
    (session.glanced setup).shutdown = session.shutdown ∧
      (session.glanced setup).state = session.state ∧
      (session.glanced setup).calls = session.calls := by
  unfold Session.glanced
  split
  · exact ⟨rfl, rfl, rfl⟩
  · split
    · rw [carry_eq]
      exact ⟨rfl, rfl, rfl⟩
    · exact ⟨rfl, rfl, rfl⟩

end Turns

section Courses

variable (setup : Setup) (first session : Session) (account : Account)

theorem follow_hear (position : Nat) (worker : Worker) (move : Move)
    (found : session.workers[position]? = some worker)
    (quiet : acted setup position session worker move = none)
    (still : ∀ later, move ≠ .elapse later) :
    account.follow setup position session move =
      account.hear session.now (heard setup position session worker move) := by
  unfold Account.follow
  simp only [found, quiet]

theorem follow_elapse (position : Nat) (worker : Worker) (later : Nat)
    (found : session.workers[position]? = some worker) :
    account.follow setup position session (.elapse later) = account.later session.now later := by
  simp [Account.follow, found, acted]

theorem follow_overlooked (position : Nat) (worker : Worker)
    (found : session.workers[position]? = some worker)
    (overlooks : worker.overlooks (session.viewOf setup worker) = true) :
    account.follow setup position session (.work position) = account := by
  simp [Account.follow, found, acted, overlooks, heard]

theorem follow_acted (position : Nat) (worker : Worker) (turn : Worker × List Effect)
    (found : session.workers[position]? = some worker)
    (attentive : worker.overlooks (session.viewOf setup worker) = false)
    (taken : session.turnAt setup position = some turn) :
    account.follow setup position session (.work position) = account.act session.now turn.2 := by
  simp [Account.follow, found, acted, attentive, taken]

variable (tellings : List Telling)

theorem glanced_course (run : Course setup 0 first tellings account session) :
    ∃ tellings, Course setup 0 first tellings account (session.glanced setup) := by
  unfold Session.glanced
  cases found : session.workers[0]? with
  | none => exact ⟨tellings, run⟩
  | some worker =>
      dsimp only
      split
      · rename_i overlooks
        have taken : session.turnAt setup 0 =
            some ({ worker with receiver := session.state.subscribe }, []) := by
          rw [turn_at setup 0 session worker found]
          exact overlooking_turn _ worker overlooks
        have worked : session.workerTurn? setup 0 = some (session.carry 0
            ({ worker with receiver := session.state.subscribe }, [])) := by
          rw [worker_turn_at, taken]
          rfl
        have course := Course.step _ account session _ (.work 0) run (.work 0 _ worked) trivial
        rw [follow_overlooked setup session account 0 worker found overlooks] at course
        exact ⟨_, course⟩
      · exact ⟨tellings, run⟩

theorem told_course (worker : Worker) (concern : Concern)
    (run : Course setup 0 first tellings account session)
    (found : session.workers[0]? = some worker) (applies : concern.Applies session worker) :
    ∃ tellings,
      Course setup 0 first tellings (account.hear session.now [concern]) (session.told concern) := by
  have moved : ∀ (move : Move) (next : Session), Step setup session move next →
      acted setup 0 session worker move = none → (∀ later, move ≠ .elapse later) →
      heard setup 0 session worker move = [concern] →
      ∃ tellings, Course setup 0 first tellings (account.hear session.now [concern]) next := by
    intro move next step quiet still tells
    have punctual : Punctual setup 0 session move := by
      cases move with
      | elapse later => exact absurd rfl (still later)
      | _ => trivial
    have course := Course.step _ account session next move run step punctual
    rw [follow_hear setup session account 0 worker move found quiet still, tells] at course
    exact ⟨_, course⟩
  cases concern with
  | write path value =>
      refine moved _ _ (.write path value) rfl (by simp) ?_
      have touched : touches worker.integration.sources path = true := applies
      simp [heard, concerning, touched]
  | reset values => exact moved _ _ (.reset values) rfl (by simp) rfl
  | teardown => exact moved _ _ .cancelAll rfl (by simp) rfl
  | drop => exact moved _ _ .discard rfl (by simp) rfl
  | answer outcome =>
      obtain ⟨number, call, underWay, known, live⟩ := applies
      have tells : session.told (.answer outcome) =
          { session with
            calls := session.calls.set number { call with outcome := some outcome } } := by
        simp [Session.told, found, underWay, known]
      rw [tells]
      refine moved _ _ (.answer number call { call with outcome := some outcome } known live
        ⟨rfl, rfl, rfl⟩) rfl (by simp) ?_
      simp [heard, underWay]

/-- An integration by itself runs like any other. -/
theorem alone_course (run : Alone setup first account session) :
    ∃ tellings, Course setup 0 first tellings account session := by
  induction run with
  | start => exact ⟨_, .start⟩
  | told account session worker concern _ found applies ih =>
      obtain ⟨tellings, course⟩ := ih
      exact told_course setup first session account tellings worker concern course found applies
  | acted account session turn _ taken ih =>
      obtain ⟨tellings, course⟩ := ih
      obtain ⟨_, glanced⟩ := glanced_course setup first session account tellings course
      obtain ⟨worker, found⟩ : ∃ worker, session.workers[0]? = some worker := by
        cases found : session.workers[0]? with
        | some worker => exact ⟨worker, rfl⟩
        | none => simp [Session.turnAt, Session.glanced, found] at taken
      obtain ⟨receiver, there, attentive⟩ := glanced_worker setup session worker found
      have worked : (session.glanced setup).workerTurn? setup 0 =
          some ((session.glanced setup).carry 0 turn) := by
        rw [worker_turn_at, taken]
        rfl
      have course := Course.step _ account _ _ (.work 0) glanced (.work 0 _ worked) trivial
      rw [follow_acted setup _ account 0 _ turn there attentive taken, glanced_now] at course
      exact ⟨_, course⟩
  | ticked account session worker _ found rests ih =>
      obtain ⟨tellings, course⟩ := ih
      obtain ⟨receiver, there, _⟩ := glanced_worker setup session worker found
      obtain ⟨_, glanced⟩ := glanced_course setup first session account tellings course
      have worked : (session.glanced setup).workerTurn? setup 0 = none := by
        rw [worker_turn_at, rests]
        rfl
      have forward : (session.glanced setup).now ≤ session.now + 1 := by
        rw [glanced_now]
        exact Nat.le_succ _
      have punctual : Punctual setup 0 (session.glanced setup) (.elapse (session.now + 1)) := by
        refine ⟨worked, ?_⟩
        intro worker found running deadline waits
        have early := rest_before_deadline setup 0 _ worker found worked running deadline waits
        rw [glanced_now] at early
        exact early
      have course := Course.step _ account _ _ _ glanced (.elapse _ forward) punctual
      rw [follow_elapse setup _ account 0 _ _ there, glanced_now] at course
      exact ⟨_, by simpa [Account.later] using course⟩

end Courses

section Unique

variable (setup : Setup) (first session : Session) (account : Account)

theorem told_now (concern : Concern) : (session.told concern).now = session.now := by
  cases concern with
  | answer outcome =>
      unfold Session.told
      dsimp only
      split
      · rfl
      · split <;> rfl
  | _ => rfl

theorem alone_forward (run : Alone setup first account session) : first.now ≤ session.now := by
  induction run with
  | start => exact Nat.le_refl _
  | told account session worker concern _ _ _ ih =>
      rw [told_now]
      exact ih
  | acted account session turn _ _ ih =>
      rw [carry_now, glanced_now]
      exact ih
  | ticked account session worker _ _ _ ih => exact Nat.le_succ_of_le ih

/-- Nothing has been told at the present time and place. -/
def Fresh (account : Account) (session : Session) : Prop :=
  ∀ notice ∈ account.notices, notice.time = session.now → notice.place < account.place

theorem alone_told_past (run : Alone setup first account session) :
    ∀ notice ∈ account.notices, notice.time ≤ session.now ∧
      (notice.time = session.now → notice.place ≤ account.place) := by
  induction run with
  | start => simp
  | told account session worker concern _ _ _ ih =>
      rw [told_now]
      intro notice listed
      rcases List.mem_append.mp listed with old | new
      · exact ih notice old
      · obtain rfl : notice = ⟨session.now, account.place, concern⟩ := by simpa using new
        exact ⟨Nat.le_refl _, fun _ => Nat.le_refl _⟩
  | acted account session turn _ _ ih =>
      rw [carry_now, glanced_now]
      intro notice listed
      obtain ⟨past, placed⟩ := ih notice listed
      exact ⟨past, fun now => Nat.le_succ_of_le (placed now)⟩
  | ticked account session worker _ _ _ ih =>
      intro notice listed
      have past := (ih notice listed).1
      refine ⟨Nat.le_succ_of_le past, ?_⟩
      intro now
      dsimp only at now
      omega

theorem told_not_fresh (concern : Concern) :
    ¬ Fresh (account.hear session.now [concern]) (session.told concern) := by
  intro fresh
  have last : (⟨session.now, account.place, concern⟩ : Notice) ∈
      (account.hear session.now [concern]).notices := by simp [Account.hear]
  exact Nat.lt_irrefl _ (fresh _ last (told_now session concern).symm)

theorem acted_fresh (turn : Worker × List Effect) (run : Alone setup first account session) :
    Fresh (account.act session.now turn.2) ((session.glanced setup).carry 0 turn) := by
  intro notice listed now
  rw [carry_now, glanced_now] at now
  exact Nat.lt_succ_of_le ((alone_told_past setup first session account run notice listed).2 now)

theorem ticked_fresh (run : Alone setup first account session) :
    Fresh { account with place := 0 } { session.glanced setup with now := session.now + 1 } := by
  intro notice listed now
  have past := (alone_told_past setup first session account run notice listed).1
  dsimp only at now
  omega

/-- A run that has come past a place has had a turn to take there. -/
theorem alone_passed (run : Alone setup first account session) (place : Nat)
    (past : place < account.place)
    (told : ∀ notice ∈ account.notices, notice.time = session.now → notice.place ≤ place) :
    ∃ before there, Alone setup first before there ∧ before.notices = account.notices ∧
      there.now = session.now ∧ before.place = place ∧ before.reports <+: account.reports ∧
      (there.glanced setup).turnAt setup 0 ≠ none := by
  induction run with
  | start => simp at past
  | told account session worker concern _ _ _ ih =>
      have last : (⟨session.now, account.place, concern⟩ : Notice) ∈
          (account.hear session.now [concern]).notices := by simp [Account.hear]
      have early := told _ last (told_now session concern).symm
      exact absurd past (Nat.not_lt_of_le early)
  | acted account session turn run taken ih =>
      rw [carry_now, glanced_now] at told ⊢
      by_cases here : account.place = place
      · exact ⟨account, session, run, rfl, rfl, here, List.prefix_append _ _, by simp [taken]⟩
      · have later : place < account.place := by
          have := Nat.le_of_lt_succ past
          omega
        obtain ⟨before, there, reached, notices, now, here, shared, turn⟩ := ih later told
        exact ⟨before, there, reached, notices, now, here,
          shared.trans (List.prefix_append _ _), turn⟩
  | ticked account session worker _ _ _ ih => simp at past

variable (sibling : Account) (other : Session)

/-- Two runs that agree on what was told, on the time and on the place are one. -/
def Determined (now size : Nat) : Prop :=
  ∀ (account sibling : Account) (session other : Session), Alone setup first account session →
    Alone setup first sibling other → session.now = now →
    account.notices.length + account.place = size → sibling.notices = account.notices →
    other.now = session.now → sibling.place = account.place →
    other = session ∧ sibling.reports = account.reports

-- Of two runs at rest, the one that is further has come past the place of the other, where there
-- was a turn to take.
theorem rest_place (run : Alone setup first account session)
    (again : Alone setup first sibling other)
    (determined : ∀ size, Determined setup first session.now size)
    (same : sibling.notices = account.notices) (now : other.now = session.now)
    (rests : (session.glanced setup).turnAt setup 0 = none) : sibling.place ≤ account.place := by
  apply Nat.le_of_not_lt
  intro past
  have told : ∀ notice ∈ sibling.notices, notice.time = other.now →
      notice.place ≤ account.place := by
    intro notice listed here
    exact (alone_told_past setup first session account run notice (same ▸ listed)).2
      (here.trans now)
  obtain ⟨before, there, reached, notices, time, place, _, turn⟩ :=
    alone_passed setup first other sibling again account.place past told
  have equal := (determined _ account before session there run reached rfl rfl
    (notices.trans same) (time.trans now) place).1
  rw [equal] at turn
  exact turn rests

theorem fresh_alike (fresh : Fresh sibling other) (same : sibling.notices = account.notices)
    (times : other.now = session.now) (places : sibling.place = account.place) :
    Fresh account session := by
  intro notice listed now
  rw [← places]
  exact fresh notice (same ▸ listed) (now.trans times.symm)

-- The last move is told by time, place and notices: a notice at the present time and place was told
-- just now, and otherwise the worker has acted if it has taken a turn at this time.
theorem determined_step (now size : Nat)
    (earlier : ∀ before, now = before + 1 → ∀ size, Determined setup first before size)
    (smaller : ∀ before, size = before + 1 → Determined setup first now before) :
    Determined setup first now size := by
  intro account sibling session other run again here sized same times places
  cases run with
  | start =>
      cases again with
      | start => exact ⟨rfl, rfl⟩
      | told => simp [Account.hear] at same
      | acted => simp [Account.act] at places
      | ticked _ session _ run =>
          have forward := alone_forward setup first session _ run
          simp at times
          omega
  | told before session worker concern run found applies =>
      have stale := told_not_fresh session before concern
      cases again with
      | start => simp [Account.hear] at same
      | told other there _ concern again =>
          rw [told_now] at here
          rw [told_now, told_now] at times
          simp only [Account.hear, List.map_cons, List.map_nil] at same places sized
          obtain ⟨notices, last⟩ := List.append_inj' same rfl
          simp only [List.cons.injEq, Notice.mk.injEq, and_true] at last
          obtain ⟨_, _, rfl⟩ := last
          have fewer := smaller (before.notices.length + before.place) (by simp at sized; omega)
          obtain ⟨equal, reports⟩ := fewer before other session there run again here rfl notices
            times places
          exact ⟨by rw [equal], reports⟩
      | acted prior there turn again =>
          have fresh := acted_fresh setup first there prior turn again
          exact absurd (fresh_alike _ _ _ _ fresh same times places) stale
      | ticked prior there _ again =>
          have fresh := ticked_fresh setup first there prior again
          exact absurd (fresh_alike _ _ _ _ fresh same times places) stale
  | acted before session turn run taken =>
      cases again with
      | start => simp [Account.act] at places
      | told prior there _ concern again =>
          have fresh := acted_fresh setup first session before turn run
          exact absurd (fresh_alike _ _ _ _ fresh same.symm times.symm places.symm)
            (told_not_fresh there prior concern)
      | acted prior there other again took =>
          rw [carry_now, glanced_now] at here
          rw [carry_now, glanced_now, carry_now, glanced_now] at times
          simp only [Account.act] at same places sized
          have fewer := smaller (before.notices.length + before.place) (by omega)
          obtain ⟨rfl, reports⟩ := fewer before prior session there run again here rfl same times
            (Nat.succ.inj places)
          obtain rfl : other = turn := Option.some.inj (took.symm.trans taken)
          exact ⟨rfl, by simp only [Account.act, reports]⟩
      | ticked => simp [Account.act] at places
  | ticked before session worker run found rests =>
      cases again with
      | start =>
          have forward := alone_forward setup first session _ run
          simp at times
          omega
      | told prior there _ concern again =>
          have fresh := ticked_fresh setup first session before run
          exact absurd (fresh_alike _ _ _ _ fresh same.symm times.symm places.symm)
            (told_not_fresh there prior concern)
      | acted => simp [Account.act] at places
      | ticked prior there _ again _ restful =>
          have time : there.now = session.now := Nat.succ.inj times
          have determined : ∀ size, Determined setup first session.now size :=
            earlier session.now here.symm
          have ahead := rest_place setup first session before prior there run again determined same
            time rests
          have behind := rest_place setup first there prior before session again run
            (time ▸ determined) same.symm time.symm restful
          obtain ⟨rfl, reports⟩ := determined _ before prior session there run again rfl rfl same
            time (Nat.le_antisymm ahead behind)
          exact ⟨rfl, reports⟩

theorem all_determined (now size : Nat) : Determined setup first now size := by
  induction now generalizing size with
  | zero =>
      induction size with
      | zero => exact determined_step setup first 0 0 (by simp) (by simp)
      | succ size ih =>
          refine determined_step setup first 0 (size + 1) (by simp) ?_
          intro before same
          exact Nat.succ.inj same ▸ ih
  | succ now earlier =>
      have before : ∀ before, now + 1 = before + 1 → ∀ size, Determined setup first before size := by
        intro before same size
        exact Nat.succ.inj same ▸ earlier size
      induction size with
      | zero => exact determined_step setup first (now + 1) 0 before (by simp)
      | succ size ih =>
          refine determined_step setup first (now + 1) (size + 1) before ?_
          intro smaller same
          exact Nat.succ.inj same ▸ ih

/-- Of two runs that were told the same by now, the one that is behind has reported the same so
far. -/
theorem alone_behind (run : Alone setup first account session)
    (again : Alone setup first sibling other) (same : sibling.notices = account.notices)
    (now : other.now = session.now) (behind : sibling.place ≤ account.place) :
    sibling.reports <+: account.reports := by
  have determined := all_determined setup first session.now
  rcases Nat.eq_or_lt_of_le behind with here | past
  · have reports : sibling.reports = account.reports :=
      (determined _ account sibling session other run again rfl rfl same now here).2
    exact reports ▸ List.prefix_refl _
  · have told : ∀ notice ∈ account.notices, notice.time = session.now →
        notice.place ≤ sibling.place := by
      intro notice listed here
      exact (alone_told_past setup first other sibling again notice (same ▸ listed)).2
        (here.trans now.symm)
    obtain ⟨before, there, reached, notices, time, place, shared, _⟩ :=
      alone_passed setup first session account run sibling.place past told
    have reports := (determined _ before sibling there other reached again time rfl
      (same.trans notices.symm) (now.trans time.symm) place.symm).2
    rw [reports]
    exact shared

/-- An integration by itself is determined, once it is at rest, by what it was told. -/
theorem alone_determined (run : Alone setup first account session)
    (again : Alone setup first sibling other) (same : sibling.notices = account.notices)
    (now : other.now = session.now) (rests : (session.glanced setup).turnAt setup 0 = none)
    (restful : (other.glanced setup).turnAt setup 0 = none) :
    sibling.reports = account.reports := by
  have determined := all_determined setup first
  have ahead := rest_place setup first session account sibling other run again (determined _) same
    now rests
  have behind := rest_place setup first other sibling account session again run (determined _)
    same.symm now.symm restful
  exact (determined _ _ account sibling session other run again rfl rfl same now
    (Nat.le_antisymm ahead behind)).2

end Unique

end FormEngine.Integration
