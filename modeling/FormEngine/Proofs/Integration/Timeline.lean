import FormEngine.Proofs.Integration.Consistency

/-!
Look-ups on the clock. A run keeps a history of one worker: when it woke to new source values, and
when it launched a call. The launches follow from the wakes alone. A wake that can be sent is
followed by one launch, a delay later, unless another wake comes before that.

The clock of a timed run stands still while somebody has a turn to take and stops at every deadline,
and nobody tears the session down.
-/

namespace FormEngine.Integration

structure Wake where
  time : Nat
  values : List (Option FormValue)

structure History where
  wakes : List Wake
  launches : List (Nat × Payload)

namespace History

/-- A worker wakes as it starts, and when it finds other source values than it saw last. -/
def wakesOf (session : Session) (worker : Worker) : List Wake :=
  let current := session.state.watch worker.integration.sources
  if worker.stage = .waiting ∨ current ≠ worker.observed then [⟨session.now, current⟩] else []

/-- What a turn of a worker adds: its wake, and the calls that are there only after it. -/
def afterTurn (worker : Worker) (session next : Session) (history : History) : History :=
  { wakes := history.wakes ++ wakesOf session worker
    launches := history.launches ++
      (next.calls.drop session.calls.length).map fun call => (session.now, call.payload) }

/-- Only turns of the worker at the position are kept. -/
def follow (position : Nat) (session : Session) (move : Move) (next : Session)
    (history : History) : History :=
  match move with
  | .work other =>
      if other = position then
        match session.workers[position]? with
        | some worker => history.afterTurn worker session next
        | none => history
      else history
  | _ => history

end History

/-- A move that a session without teardown makes on its own clock. -/
def Timely (setup : Setup) (session : Session) : Move → Prop
  | .elapse later =>
      (∀ position, session.workerTurn? setup position = none) ∧
        ∀ worker ∈ session.workers, worker.stage = .running →
          ∀ deadline, worker.deadline = some deadline → later ≤ deadline
  | .cancelAll => False
  | .discard => False
  | _ => True

inductive Timed (setup : Setup) (position : Nat) (first : Session) : History → Session → Prop where
  | start : Timed setup position first ⟨[], []⟩ first
  | step (history : History) (session next : Session) (move : Move)
      (run : Timed setup position first history session)
      (step : Step setup session move next) (timely : Timely setup session move) :
      Timed setup position first (history.follow position session move next) next

theorem timed_reachable (setup : Setup) (position : Nat) (first session : Session)
    (history : History) (run : Timed setup position first history session) :
    Reachable setup first session := by
  induction run with
  | start => exact .start
  | step history session next move _ step _ ih => exact .step session next move ih step

-- The clock of a session, as the program drives it.
section Driven

variable (setup : Setup) (position : Nat) (first session : Session)

-- Whatever else could be next, a deadline that is reached leaves a running worker a turn.
theorem rest_before_deadline (worker : Worker) (found : session.workers[position]? = some worker)
    (rests : session.workerTurn? setup position = none) (running : worker.stage = .running)
    (deadline : Nat) (waits : worker.deadline = some deadline) : session.now < deadline := by
  apply Nat.lt_of_not_le
  intro reached
  have turn : (worker.turn? (session.viewOf setup worker)).isSome = true := by
    simp only [Worker.turn?, running, waits, Option.any_some]
    split
    · rfl
    · split
      · rfl
      · simp [Session.viewOf, reached]
  obtain ⟨moved, turn⟩ := Option.isSome_iff_exists.mp turn
  simp [Session.workerTurn?, found, turn] at rests

theorem rest_all (rests : session.turn? setup = none) (other : Nat) :
    session.workerTurn? setup other = none := by
  by_cases inside : other < session.workers.length
  · obtain ⟨workers, _⟩ := Option.or_eq_none_iff.mp rests
    exact List.findSome?_eq_none_iff.mp workers other (List.mem_range.mpr inside)
  · simp [Session.workerTurn?, Nat.le_of_not_lt inside]

-- The clock jumps from rest, and at most to the earliest deadline that is still ahead.
theorem jump_timely (rests : session.turn? setup = none) (later : Nat)
    (punctual : ∀ due ∈ session.dueTimes, session.now < due → later ≤ due) :
    Timely setup session (.elapse later) := by
  refine ⟨rest_all setup session rests, ?_⟩
  intro worker listed running deadline waits
  obtain ⟨place, found⟩ := List.mem_iff_getElem?.mp listed
  refine punctual deadline ?_ (rest_before_deadline setup place session worker found
    (rest_all setup session rests place) running deadline waits)
  refine List.mem_append_left _ (List.mem_filterMap.mpr ⟨worker, listed, ?_⟩)
  simp [running, waits]

theorem settle_timed (fuel : Nat) (history : History)
    (run : Timed setup position first history session) :
    ∃ later, Timed setup position first later (session.settle setup fuel) := by
  induction fuel generalizing session history with
  | zero => exact ⟨history, run⟩
  | succ fuel ih =>
      unfold Session.settle
      split
      · rename_i next turn
        obtain ⟨_, move, turns, step⟩ := turn_step setup session next turn
        have timely : Timely setup session move := by
          cases move <;> trivial
        exact ih next _ (.step history session next move run step timely)
      · exact ⟨history, run⟩

variable (calm : ∀ session, Reachable setup first session →
  (session.settle setup Session.turnLimit).turn? setup = none)

include calm

theorem sleep_until_timed (finish fuel : Nat) (history : History)
    (run : Timed setup position first history session) (ahead : session.now ≤ finish)
    (enough : finish ≤ session.now + fuel) :
    ∃ later, Timed setup position first later (session.sleepUntil setup finish fuel) := by
  induction fuel generalizing session history with
  | zero =>
      obtain rfl : finish = session.now := Nat.le_antisymm enough ahead
      exact ⟨history, run⟩
  | succ fuel ih =>
      have reached := timed_reachable setup position first session history run
      obtain ⟨_, same⟩ := settle_reachable setup first Session.turnLimit session reached
      obtain ⟨settled, slept⟩ :=
        settle_timed setup position first session Session.turnLimit history run
      have rests := calm session reached
      unfold Session.sleepUntil
      dsimp only
      split
      · rename_i due next
        obtain ⟨later, earlier⟩ := next_due_between finish due _ next
        have timely := jump_timely setup _ rests due (by
          intro other listed waits
          by_cases within : other < finish
          · refine (List.min?_eq_some_iff.mp next).2 other ?_
            simp [listed, waits, within]
          · omega)
        have forward := Nat.le_of_lt later
        exact ih _ _ (.step settled _ _ (.elapse due) slept (.elapse due forward) timely)
          (Nat.le_of_lt earlier) (by dsimp only; omega)
      · rename_i none
        have timely := jump_timely setup _ rests finish (by
          intro other listed waits
          apply Nat.le_of_not_lt
          intro within
          have skipped := List.filter_eq_nil_iff.mp (List.min?_eq_none_iff.mp none) other listed
          simp [waits, within] at skipped)
        exact ⟨_, .step settled _ _ (.elapse finish) slept (.elapse finish (by omega)) timely⟩

/-- The sleeps of a session are timed runs, as long as no instant runs out of turns. -/
theorem sleep_timed (duration : Nat) (history : History)
    (run : Timed setup position first history session) (short : duration ≤ Session.turnLimit) :
    ∃ later, Timed setup position first later (session.sleep setup duration) := by
  unfold Session.sleep
  split
  · exact ⟨history, run⟩
  · exact sleep_until_timed setup position first session calm _ _ history run
      (Nat.le_add_right _ _) (Nat.add_le_add_left short _)

end Driven

section Due

variable (sources : List String) (delay : Nat)

/-- A look-up is due at a time if a wake with something to send lies one delay before it, and no
later wake comes up to that time. -/
def Due (wakes : List Wake) (time : Nat) (payload : Payload) : Prop :=
  ∃ before wake after, wakes = before ++ wake :: after ∧ time = wake.time + delay ∧
    Payload.build? sources wake.values = some payload ∧ ∀ later ∈ after, time < later.time

/-- No wake falls on the very end of the delay after the one before it. -/
def Untied (wakes : List Wake) : Prop :=
  ∀ before wake next after, wakes = before ++ wake :: next :: after →
    (Payload.build? sources wake.values).isSome = true → next.time ≠ wake.time + delay

theorem untied_before (wakes : List Wake) (last : Wake)
    (untied : Untied sources delay (wakes ++ [last])) : Untied sources delay wakes := by
  intro before wake next after same ready
  exact untied before wake next (after ++ [last]) (by simp [same]) ready

theorem due_append (wakes : List Wake) (last : Wake) (time : Nat) (payload : Payload) :
    Due sources delay (wakes ++ [last]) time payload ↔
      (Due sources delay wakes time payload ∧ time < last.time) ∨
      (time = last.time + delay ∧ Payload.build? sources last.values = some payload) := by
  constructor
  · rintro ⟨before, wake, after, same, delayed, ready, alone⟩
    rcases List.eq_nil_or_concat after with rfl | ⟨others, final, rfl⟩
    · right
      obtain ⟨_, final⟩ := List.append_inj' same rfl
      obtain rfl := List.singleton_inj.mp final
      exact ⟨delayed, ready⟩
    · left
      rw [List.concat_eq_append, ← List.cons_append, ← List.append_assoc] at same
      obtain ⟨rfl, finish⟩ := List.append_inj' same rfl
      obtain rfl := List.singleton_inj.mp finish
      refine ⟨⟨before, wake, others, rfl, delayed, ready, ?_⟩, alone last (by simp)⟩
      exact fun later listed => alone later (by simp [listed])
  · rintro (⟨⟨before, wake, after, rfl, delayed, ready, alone⟩, earlier⟩ | ⟨delayed, ready⟩)
    · refine ⟨before, wake, after ++ [last], by simp, delayed, ready, ?_⟩
      intro later listed
      rcases List.mem_append.mp listed with old | new
      · exact alone later old
      · rw [List.mem_singleton.mp new]
        exact earlier
    · exact ⟨wakes, last, [], rfl, delayed, ready, by simp⟩

-- Every wake before the last has the last after it.
theorem due_before_last (earlier : List Wake) (last : Wake) (time : Nat) (payload : Payload)
    (due : Due sources delay (earlier ++ [last]) time payload) :
    time < last.time ∨
      (time = last.time + delay ∧ Payload.build? sources last.values = some payload) :=
  ((due_append sources delay earlier last time payload).mp due).imp_left And.right

end Due

section Keeping

/-- What a history says of its worker, which has woken last with `last` and, as long as it has a
deadline, waits for the look-up of that wake. -/
structure Kept (sources : List String) (delay now : Nat) (worker : Worker) (history : History)
    (earlier : List Wake) (last : Wake) : Prop where
  wakes : history.wakes = earlier ++ [last]
  woken : last.time ≤ now
  observed : worker.observed = last.values
  begun : ∀ entry ∈ history.launches, entry.1 ≤ now
  ordered : history.launches.Pairwise fun first second => first.1 < second.1
  pending : ∀ deadline, worker.deadline = some deadline →
    deadline = last.time + delay ∧ now ≤ deadline ∧
      (Payload.build? sources last.values).isSome = true ∧
      ∀ time payload, (time, payload) ∈ history.launches ↔
        Due sources delay history.wakes time payload ∧ time < deadline
  settled : worker.deadline = none → ∀ time payload,
    (time, payload) ∈ history.launches ↔ Due sources delay history.wakes time payload

variable (sources : List String) (delay now : Nat) (worker : Worker) (history : History)
  (earlier : List Wake) (last : Wake)

theorem kept_alike (kept : Kept sources delay now worker history earlier last) (after : Worker)
    (observed : after.observed = worker.observed) (deadline : after.deadline = worker.deadline) :
    Kept sources delay now after history earlier last :=
  ⟨kept.wakes, kept.woken, observed ▸ kept.observed, kept.begun, kept.ordered,
    fun due waits => kept.pending due (deadline ▸ waits),
    fun idle => kept.settled (deadline ▸ idle)⟩

theorem kept_later (kept : Kept sources delay now worker history earlier last) (later : Nat)
    (forward : now ≤ later)
    (punctual : ∀ deadline, worker.deadline = some deadline → later ≤ deadline) :
    Kept sources delay later worker history earlier last :=
  ⟨kept.wakes, Nat.le_trans kept.woken forward, kept.observed,
    fun entry listed => Nat.le_trans (kept.begun entry listed) forward, kept.ordered,
    fun deadline waits => by
      obtain ⟨same, _, rest⟩ := kept.pending deadline waits
      exact ⟨same, punctual deadline waits, rest⟩,
    kept.settled⟩

/-- At a wake that is not tied with a deadline, everything due before it has been launched. -/
theorem launched_before_wake (kept : Kept sources delay now worker history earlier last)
    (untied : (Payload.build? sources last.values).isSome = true → now ≠ last.time + delay)
    (time : Nat) (payload : Payload) :
    (time, payload) ∈ history.launches ↔
      Due sources delay history.wakes time payload ∧ time < now := by
  have early : Due sources delay history.wakes time payload → time ≤ now → time < now := by
    intro due past
    rw [kept.wakes] at due
    rcases due_before_last sources delay earlier last time payload due with before | ⟨same, ready⟩
    · exact Nat.lt_of_lt_of_le before kept.woken
    · have apart := untied (by simp [ready])
      omega
  cases waits : worker.deadline with
  | none =>
      have launches := kept.settled waits time payload
      constructor
      · intro listed
        have due := launches.mp listed
        exact ⟨due, early due (kept.begun _ listed)⟩
      · exact fun ⟨due, _⟩ => launches.mpr due
  | some deadline =>
      obtain ⟨_, ahead, _, launches⟩ := kept.pending deadline waits
      constructor
      · intro listed
        have due := ((launches time payload).mp listed).1
        exact ⟨due, early due (kept.begun _ listed)⟩
      · exact fun ⟨due, past⟩ =>
          (launches time payload).mpr ⟨due, Nat.lt_of_lt_of_le past ahead⟩

/-- A wake adds itself to the history and sets the deadline for what can be sent. -/
theorem kept_woken (before : History) (after : Worker)
    (settled : ∀ time payload, (time, payload) ∈ before.launches ↔
      Due sources delay before.wakes time payload ∧ time < now)
    (begun : ∀ entry ∈ before.launches, entry.1 ≤ now)
    (ordered : before.launches.Pairwise fun first second => first.1 < second.1)
    (woken : after.deadline =
      if (Payload.build? sources after.observed).isSome then some (now + delay) else none) :
    Kept sources delay now after
      ⟨before.wakes ++ [⟨now, after.observed⟩], before.launches⟩ before.wakes
      ⟨now, after.observed⟩ := by
  have due := due_append sources delay before.wakes ⟨now, after.observed⟩
  exact {
    wakes := rfl, woken := Nat.le_refl _, observed := rfl, begun, ordered
    pending := by
      intro deadline waits
      rw [woken] at waits
      split at waits
      · rename_i ready
        obtain rfl := Option.some.inj waits
        refine ⟨rfl, Nat.le_add_right _ _, ready, fun time payload => ?_⟩
        rw [settled, due]
        constructor
        · exact fun ⟨earlier, past⟩ => ⟨Or.inl ⟨earlier, past⟩, Nat.lt_add_right _ past⟩
        · rintro ⟨earlier | ⟨rfl, _⟩, past⟩
          · exact earlier
          · exact absurd past (Nat.lt_irrefl _)
      · simp at waits
    settled := by
      intro idle time payload
      have unready : Payload.build? sources after.observed = none := by
        rw [woken] at idle
        simpa using idle
      rw [settled, due]
      simp [unready] }

/-- A launch at the deadline settles what was pending. -/
theorem kept_launched (kept : Kept sources delay now worker history earlier last)
    (after : Worker) (deadline : Nat) (payload : Payload)
    (waits : worker.deadline = some deadline) (reached : deadline ≤ now)
    (complete : Payload.build? sources worker.observed = some payload)
    (observed : after.observed = worker.observed) (idle : after.deadline = none) :
    Kept sources delay now after ⟨history.wakes, history.launches ++ [(now, payload)]⟩ earlier
      last := by
  obtain ⟨same, ahead, _, launches⟩ := kept.pending deadline waits
  obtain rfl : deadline = now := Nat.le_antisymm reached ahead
  have ready : Payload.build? sources last.values = some payload := kept.observed ▸ complete
  exact {
    wakes := kept.wakes, woken := kept.woken, observed := observed ▸ kept.observed
    begun := by
      intro entry listed
      rcases List.mem_append.mp listed with old | new
      · exact kept.begun entry old
      · exact Nat.le_of_eq (congrArg Prod.fst (List.mem_singleton.mp new))
    ordered := by
      refine List.pairwise_append.mpr ⟨kept.ordered, List.pairwise_singleton .., ?_⟩
      rintro ⟨time, other⟩ old entry new
      rw [List.mem_singleton.mp new]
      exact ((launches time other).mp old).2
    pending := fun deadline waits => by simp [idle] at waits
    settled := by
      intro _ time other
      rw [List.mem_append, launches, List.mem_singleton, Prod.mk.injEq]
      constructor
      · rintro (⟨due, _⟩ | ⟨rfl, rfl⟩)
        · exact due
        · exact ⟨earlier, last, [], kept.wakes, same, ready, by simp⟩
      · intro due
        rcases due_before_last sources delay earlier last time other (kept.wakes ▸ due) with
          before | ⟨final, sent⟩
        · exact Or.inl ⟨due, Nat.lt_of_lt_of_le before kept.woken⟩
        · exact Or.inr ⟨final.trans same.symm, Option.some.inj (sent.symm.trans ready)⟩ }

end Keeping

section Turns

theorem wakes_of_quiet (session : Session) (worker : Worker) (running : worker.stage = .running)
    (same : session.state.watch worker.integration.sources = worker.observed) :
    History.wakesOf session worker = [] := by
  simp [History.wakesOf, running, same]

theorem wakes_of_wake (session : Session) (worker : Worker)
    (wakes : worker.stage = .waiting ∨
      session.state.watch worker.integration.sources ≠ worker.observed) :
    History.wakesOf session worker =
      [⟨session.now, session.state.watch worker.integration.sources⟩] := by
  simp [History.wakesOf, wakes]

theorem mem_wakes_of (session : Session) (worker : Worker) (wake : Wake)
    (listed : wake ∈ History.wakesOf session worker) :
    wake = ⟨session.now, session.state.watch worker.integration.sources⟩ := by
  unfold History.wakesOf at listed
  dsimp only at listed
  split at listed
  · exact List.mem_singleton.mp listed
  · simp at listed

theorem after_turn (worker : Worker) (session next : Session) (history : History)
    (woken : List Wake) (wakes : History.wakesOf session worker = woken)
    (calls : next.calls.length = session.calls.length) :
    history.afterTurn worker session next = ⟨history.wakes ++ woken, history.launches⟩ := by
  simp [History.afterTurn, wakes, List.drop_eq_nil_of_le (Nat.le_of_eq calls)]

variable (setup : Setup) (integration : FormEngine.Integration) (delay : Nat)

/-- The worker at a position and its history, as they are at any time of a timed run. -/
structure Chronicle (position : Nat) (session : Session) (history : History) (worker : Worker) :
    Prop where
  live : session.shutdown = false
  found : session.workers[position]? = some worker
  runs : worker.integration = integration
  paced : worker.debounce = delay
  sized : ∀ wake ∈ history.wakes, wake.values.length = integration.sources.length
  past : ∀ wake ∈ history.wakes, wake.time ≤ session.now
  rising : history.wakes.Pairwise fun first second => first.time ≤ second.time
  kept : (worker.stage = .waiting ∧ history = ⟨[], []⟩) ∨
    (worker.stage = .running ∧ ∃ earlier last,
      Kept integration.sources delay session.now worker history earlier last)

variable (filled : integration.sources ≠ [])
  (allowed : setup.allowlist.allows integration.endpoint = true)

include filled allowed

/-- What the turns of the worker do to its history. -/
theorem kept_turn (session next : Session) (worker after : Worker) (acts : List Effect)
    (history : History) (position : Nat)
    (chronicle : Chronicle integration delay position session history worker)
    (attends : worker.stage = .running → Attends setup session worker)
    (took : Took (session.viewOf setup worker) worker after acts)
    (calls : next.calls = acts.foldl Effect.onCalls session.calls)
    (untied : Untied integration.sources delay (history.afterTurn worker session next).wakes) :
    after.integration = integration ∧ after.debounce = delay ∧ after.stage = .running ∧
      ∃ earlier last, Kept integration.sources delay session.now after
        (history.afterTurn worker session next) earlier last := by
  obtain ⟨live, found, runs, paced, _, _, _, kept⟩ := chronicle
  subst runs paced
  have running : worker.stage = .running → ∃ earlier last,
      Kept worker.integration.sources worker.debounce session.now worker history earlier last := by
    intro stage
    rcases kept with ⟨waiting, _⟩ | ⟨_, kept⟩
    · simp [stage] at waiting
    · exact kept
  -- A turn without unseen changes finds the values that were seen last.
  have unchanged : worker.stage = .running → worker.receiver.seen = session.state.changes →
      session.state.watch worker.integration.sources = worker.observed :=
    fun stage seen => ((attends stage).fresh seen).symm
  cases took with
  | retired stage empty => exact absurd empty filled
  | stopped stage shutdown => simp [Session.viewOf, live] at shutdown
  | started stage _ waiting same =>
      have empty : history = ⟨[], []⟩ := by
        rcases kept with ⟨_, empty⟩ | ⟨started, _⟩
        · exact empty
        · simp [stage] at started
      subst same empty
      rw [after_turn worker session next _ _ (wakes_of_wake session worker (Or.inl stage))
        (by rw [calls, calls_registered])]
      refine ⟨rfl, rfl, rfl, _, _, kept_woken worker.integration.sources worker.debounce session.now
        ⟨[], []⟩ _ ?_ (by simp) List.Pairwise.nil rfl⟩
      intro time payload
      simp [Due]
  | overlooked stage _ unseen same =>
      obtain ⟨earlier, last, kept⟩ := running stage
      rw [after_turn worker session next _ _ (wakes_of_quiet session worker stage same)
        (by rw [calls]; rfl), List.append_nil]
      exact ⟨rfl, rfl, stage, earlier, last, kept_alike _ _ _ _ _ _ _ kept _ rfl rfl⟩
  | noticed stage _ unseen changed waiting same =>
      obtain ⟨earlier, last, kept⟩ := running stage
      have quiet : next.calls.length = session.calls.length := by
        rw [calls]
        unfold Worker.cancellation
        split <;> simp [Effect.onCalls]
      subst same
      rw [after_turn worker session next _ _ (wakes_of_wake session worker (Or.inr changed)) quiet]
        at untied ⊢
      have settled := launched_before_wake _ _ _ _ _ _ _ kept
        (untied earlier last ⟨session.now, session.state.watch worker.integration.sources⟩ []
          (by simp [kept.wakes]))
      exact ⟨rfl, rfl, stage, _, _, kept_woken worker.integration.sources worker.debounce
        session.now history _ settled kept.begun kept.ordered rfl⟩
  | launched payload deadline stage _ seen waited due complete _ =>
      obtain ⟨earlier, last, kept⟩ := running stage
      have same : history.afterTurn worker session next =
          ⟨history.wakes, history.launches ++ [(session.now, payload)]⟩ := by
        simp [History.afterTurn, wakes_of_quiet session worker stage (unchanged stage seen), calls,
          Effect.onCalls, Lookup.Call.create]
      rw [same]
      exact ⟨rfl, rfl, stage, earlier, last, kept_launched _ _ _ _ _ _ _ kept _ deadline payload
        waited due complete rfl rfl⟩
  | lapsed deadline stage _ seen waited due idle =>
      obtain ⟨earlier, last, kept⟩ := running stage
      obtain ⟨_, _, ready, _⟩ := kept.pending deadline waited
      rw [← kept.observed] at ready
      rcases idle with incomplete | refused
      · rw [Worker.payload?] at incomplete
        simp [incomplete] at ready
      · simp [Session.viewOf, allowed] at refused
  | completed number outcome stage _ seen underWay ended =>
      obtain ⟨earlier, last, kept⟩ := running stage
      rw [after_turn worker session next _ _ (wakes_of_quiet session worker stage
        (unchanged stage seen)) (by rw [calls, calls_written]), List.append_nil]
      exact ⟨rfl, rfl, stage, earlier, last, kept_alike _ _ _ _ _ _ _ kept _ rfl rfl⟩

end Turns

end FormEngine.Integration
