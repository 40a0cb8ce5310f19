import FormEngine.Proofs.AutoSave.Clock

/-!
Attempts on the clock. On its own clock a session attempts to save at the due times of its wakes and
at no other time: a delay after a wake, unless another wake comes before that. A wake just at a due
time is the one case in which the order within that time decides, and a teardown leaves out what
would have been due later.
-/

namespace FormEngine.AutoSave

/-- A delay after a wake without another one since. -/
def Due (delay : Nat) (wakes : List Nat) (time : Nat) : Prop :=
  ∃ wake ∈ wakes, time = wake + delay ∧ ∀ later ∈ wakes, ¬ (wake < later ∧ later ≤ time)

/-- No wake comes just when a save would be due. -/
def Untied (delay : Nat) (wakes : List Nat) : Prop :=
  ∀ wake ∈ wakes, ∀ later ∈ wakes, later = wake + delay →
    ∃ between ∈ wakes, wake < between ∧ between < later

def History.Attempted (history : History) (time : Nat) : Prop :=
  ∃ attempt ∈ history.attempts, attempt.time = time

section Wakes

variable (delay now : Nat) (wakes : List Nat) (woken : ∀ wake ∈ wakes, wake ≤ now)

include woken

theorem untied_before (untied : Untied delay (wakes ++ [now])) : Untied delay wakes := by
  intro wake listed later after tied
  obtain ⟨between, among, above, below⟩ := untied wake (List.mem_append_left _ listed) later
    (List.mem_append_left _ after) tied
  rcases List.mem_append.mp among with old | new
  · exact ⟨between, old, above, below⟩
  · have here : between = now := by simpa using new
    have early := woken later after
    omega

/-- A wake leaves what was due before it and adds one due time. -/
theorem due_append (time : Nat) :
    Due delay (wakes ++ [now]) time ↔
      (Due delay wakes time ∧ time < now) ∨ time = now + delay := by
  constructor
  · rintro ⟨wake, listed, rfl, last⟩
    rcases List.mem_append.mp listed with old | new
    · have passed := last now (List.mem_append_right _ (List.mem_singleton_self now))
      have before := woken wake old
      by_cases here : wake = now
      · exact Or.inr (by rw [here])
      · left
        refine ⟨⟨wake, old, rfl, ?_⟩, by omega⟩
        intro later after
        exact last later (List.mem_append_left _ after)
    · have here : wake = now := by simpa using new
      exact Or.inr (by rw [here])
  · rintro (⟨⟨wake, old, rfl, last⟩, early⟩ | rfl)
    · refine ⟨wake, List.mem_append_left _ old, rfl, ?_⟩
      intro later after
      rcases List.mem_append.mp after with listed | new
      · exact last later listed
      · have here : later = now := by simpa using new
        omega
    · refine ⟨now, List.mem_append_right _ (List.mem_singleton_self now), rfl, ?_⟩
      intro later after
      rcases List.mem_append.mp after with listed | new
      · have early := woken later listed
        omega
      · have here : later = now := by simpa using new
        omega

omit woken in
-- A wake just at a due time would tie with it.
theorem due_not_now (untied : Untied delay (wakes ++ [now])) : ¬ Due delay wakes now := by
  rintro ⟨wake, listed, due, last⟩
  obtain ⟨between, among, above, below⟩ := untied wake (List.mem_append_left _ listed) now
    (List.mem_append_right _ (List.mem_singleton_self now)) due
  rcases List.mem_append.mp among with old | new
  · exact last between old ⟨above, Nat.le_of_lt below⟩
  · have here : between = now := by simpa using new
    omega

end Wakes

/-- What holds on the clock of a session, ties or not. -/
structure Paced (session : Session) (history : History) : Prop where
  waiting : session.saveLoop.stage = .waiting → session.saveLoop.deadline = none
  ahead : session.shutdown = false → ∀ deadline, session.saveLoop.deadline = some deadline →
    session.saveLoop.stage = .running ∧ session.now ≤ deadline
  woken : ∀ wake ∈ history.wakes, wake ≤ session.now
  past : ∀ time, history.Attempted time → time ≤ session.now
  live : history.torn = none → session.shutdown = false
  torn : ∀ time, history.torn = some time → session.shutdown = true ∧
    (∀ deadline, session.saveLoop.deadline = some deadline → time ≤ deadline) ∧
    ∀ attempted, history.Attempted attempted → attempted ≤ time

section Pace

variable (session next : Session) (history later : History)

theorem attempted_append (attempt : Attempt) (time : Nat) :
    History.Attempted { history with attempts := history.attempts ++ [attempt] } time ↔
      history.Attempted time ∨ attempt.time = time := by
  simp [History.Attempted, or_and_right, exists_or]

/-- The clock only moves while the loop rests, and at most to its deadline. -/
theorem timely_now (move : Move) (moves : Moves session move next) (timely : Timely session move) :
    session.now ≤ next.now ∧ (next.now = session.now ∨
      (session.saveLoop.stage = .running →
        ∀ deadline, session.saveLoop.deadline = some deadline → next.now ≤ deadline)) := by
  cases moves with
  | elapse later forward => exact ⟨forward, Or.inr timely.2⟩
  | work next turn => exact ⟨Nat.le_of_eq (turn_now session next turn).symm,
      Or.inl (turn_now session next turn)⟩
  | _ => exact ⟨Nat.le_refl _, Or.inl rfl⟩

variable (paced : Paced session history)

include paced

theorem paced_aside (held : next.saveLoop = session.saveLoop)
    (shutdown : next.shutdown = session.shutdown) (forward : session.now ≤ next.now)
    (prompt : next.now = session.now ∨ (session.saveLoop.stage = .running →
      ∀ deadline, session.saveLoop.deadline = some deadline → next.now ≤ deadline)) :
    Paced next history where
  waiting := by
    rw [held]
    exact paced.waiting
  ahead := by
    rw [held, shutdown]
    intro live deadline waits
    obtain ⟨running, early⟩ := paced.ahead live deadline waits
    rcases prompt with still | before
    · exact ⟨running, still ▸ early⟩
    · exact ⟨running, before running deadline waits⟩
  woken := fun wake listed => Nat.le_trans (paced.woken wake listed) forward
  past := fun time attempted => Nat.le_trans (paced.past time attempted) forward
  live := by
    rw [shutdown]
    exact paced.live
  torn := by
    rw [held, shutdown]
    exact paced.torn

theorem paced_torn (deadline : next.saveLoop.deadline = session.saveLoop.deadline)
    (stage : next.saveLoop.stage = session.saveLoop.stage ∨ next.saveLoop.stage = .ended)
    (down : next.shutdown = true) (now : next.now = session.now) :
    Paced next { history with
      torn := if session.shutdown = false then some session.now else history.torn } where
  waiting := by
    intro waits
    rw [deadline]
    rcases stage with same | ended
    · exact paced.waiting (same ▸ waits)
    · simp [waits] at ended
  ahead := by
    intro live
    simp [down] at live
  woken := now ▸ paced.woken
  past := now ▸ paced.past
  live := by
    cases live : session.shutdown with
    | false => simp
    | true =>
        intro none
        have up := paced.live (by simpa using none)
        simp [live] at up
  torn := by
    intro time told
    rw [deadline]
    refine ⟨down, ?_⟩
    cases live : session.shutdown with
    | false =>
        have here : session.now = time := by simpa [live] using told
        rw [← here]
        exact ⟨fun deadline waits => (paced.ahead live deadline waits).2, paced.past⟩
    | true => exact (paced.torn time (by simpa [live] using told)).2

-- A session that is live was not torn down.
theorem live_untorn (live : session.shutdown = false) (time : Nat) : history.torn ≠ some time := by
  intro told
  have down := (paced.torn time told).1
  simp [live] at down

theorem paced_step (tells : Tells session history next later) (forward : session.now ≤ next.now)
    (prompt : next.now = session.now ∨ (session.saveLoop.stage = .running →
      ∀ deadline, session.saveLoop.deadline = some deadline → next.now ≤ deadline)) :
    Paced next later := by
  cases tells with
  | aside _ held _ shutdown =>
      exact paced_aside session next history paced held shutdown forward prompt
  | torn _ deadline stage _ _ down now =>
      exact paced_torn session next history paced deadline stage down now
  | begun stage =>
      exact {
        waiting := fun _ => rfl
        ahead := fun _ _ waits => by cases waits
        woken := paced.woken
        past := paced.past
        live := paced.live
        torn := fun time told => by
          obtain ⟨down, _, early⟩ := paced.torn time told
          refine ⟨down, ?_, early⟩
          intro deadline waits
          cases waits }
  | stopped stage down =>
      exact {
        waiting := fun waits => by cases waits
        ahead := fun live => by simp [down] at live
        woken := paced.woken
        past := paced.past
        live := paced.live
        torn := paced.torn }
  | noticed stage live unseen =>
      exact {
        waiting := fun waits => by cases waits
        ahead := fun _ deadline waits => by
          obtain rfl := Option.some.inj waits
          exact ⟨rfl, Nat.le_add_right _ _⟩
        woken := fun wake listed => by
          rcases List.mem_append.mp listed with old | new
          · exact paced.woken wake old
          · exact Nat.le_of_eq (by simpa using new)
        past := paced.past
        live := paced.live
        torn := fun time told => absurd told (live_untorn session history paced live time) }
  | attempted deadline store event stage live =>
      exact {
        waiting := fun waits => by cases waits
        ahead := fun _ _ waits => by cases waits
        woken := paced.woken
        past := fun time attempted => by
          rcases (attempted_append history _ time).mp attempted with old | rfl
          · exact paced.past time old
          · exact Nat.le_refl _
        live := paced.live
        torn := fun time told => absurd told (live_untorn session history paced live time) }

end Pace

theorem run_paced (first session : Session) (history : History)
    (run : Timed first history session) (waits : first.saveLoop.deadline = none)
    (live : first.shutdown = false) : Paced session history := by
  induction run with
  | start =>
      exact {
        waiting := fun _ => waits
        ahead := fun _ deadline pending => by simp [waits] at pending
        woken := fun wake listed => by cases listed
        past := fun time attempted => by
          obtain ⟨_, listed, _⟩ := attempted
          cases listed
        live := fun _ => live
        torn := fun time told => by cases told }
  | step history session next move _ moves timely ih =>
      obtain ⟨forward, prompt⟩ := timely_now session next move moves timely
      exact paced_step session next history _ ih (moves_tell session next history move moves)
        forward prompt

/-- How the attempts follow from the wakes so far. -/
structure Kept (delay : Nat) (session : Session) (history : History) : Prop where
  made : ∀ time, history.Attempted time ↔
    Due delay history.wakes time ∧ session.saveLoop.deadline ≠ some time
  pending : ∀ deadline, session.saveLoop.deadline = some deadline →
    Due delay history.wakes deadline
  rising : history.attempts.Pairwise fun first second => first.time < second.time

section Keeping

variable (delay : Nat) (session next : Session) (history later : History)
  (paced : Paced session history) (kept : Kept delay session history)

include kept

theorem kept_alike
    (deadline : next.saveLoop.deadline = session.saveLoop.deadline)
    (wakes : later.wakes = history.wakes) (attempts : later.attempts = history.attempts) :
    Kept delay next later where
  made := by
    intro time
    have same : later.Attempted time ↔ history.Attempted time := by
      rw [History.Attempted, History.Attempted, attempts]
    rw [same, deadline, wakes]
    exact kept.made time
  pending := by
    rw [deadline, wakes]
    exact kept.pending
  rising := attempts ▸ kept.rising

include paced

theorem kept_noticed (live : session.shutdown = false)
    (untied : Untied delay (history.wakes ++ [session.now]))
    (deadline : next.saveLoop.deadline = some (session.now + delay)) :
    Kept delay next { history with wakes := history.wakes ++ [session.now] } where
  made := by
    intro time
    have same : History.Attempted { history with wakes := history.wakes ++ [session.now] } time ↔
        history.Attempted time := Iff.rfl
    rw [same, due_append delay session.now history.wakes paced.woken, deadline, kept.made time]
    constructor
    · rintro ⟨was, other⟩
      have early := paced.past time ((kept.made time).mpr ⟨was, other⟩)
      have apart : time ≠ session.now := by
        rintro rfl
        exact due_not_now delay _ history.wakes untied was
      refine ⟨Or.inl ⟨was, by omega⟩, ?_⟩
      intro same
      have again := Option.some.inj same
      omega
    · rintro ⟨⟨was, early⟩ | rfl, other⟩
      · refine ⟨was, ?_⟩
        intro waits
        have ahead := (paced.ahead live time waits).2
        omega
      · exact absurd rfl other
  pending := by
    intro pending waits
    rw [deadline] at waits
    rw [due_append delay session.now history.wakes paced.woken]
    exact Or.inr (Option.some.inj waits).symm
  rising := kept.rising

theorem kept_attempted (attempt : Attempt) (time : attempt.time = session.now)
    (waited : session.saveLoop.deadline = some session.now)
    (deadline : next.saveLoop.deadline = none) :
    Kept delay next { history with attempts := history.attempts ++ [attempt] } where
  made := by
    intro other
    rw [attempted_append, kept.made, deadline, waited, time]
    constructor
    · rintro (⟨due, _⟩ | rfl)
      · exact ⟨due, by simp⟩
      · exact ⟨kept.pending _ waited, by simp⟩
    · rintro ⟨due, _⟩
      by_cases here : session.now = other
      · exact Or.inr here
      · exact Or.inl ⟨due, by simpa using here⟩
  pending := by
    rw [deadline]
    intro pending waits
    cases waits
  rising := by
    refine List.pairwise_append.mpr ⟨kept.rising, List.pairwise_singleton _ _, ?_⟩
    intro before listed last only
    obtain rfl := List.mem_singleton.mp only
    have attempted : history.Attempted before.time := ⟨before, listed, rfl⟩
    have apart : before.time ≠ session.now := by
      intro here
      exact ((kept.made _).mp attempted).2 (here ▸ waited)
    have early := paced.past _ attempted
    omega

theorem kept_step (tells : Tells session history next later)
    (delayed : session.settings.debounce = delay) (untied : Untied delay later.wakes) :
    Kept delay next later := by
  cases tells with
  | aside _ held => exact kept_alike delay session next history _ kept (by rw [held]) rfl rfl
  | torn _ deadline => exact kept_alike delay session next history _ kept deadline rfl rfl
  | begun stage =>
      exact kept_alike delay session _ history _ kept (paced.waiting stage).symm rfl rfl
  | stopped => exact kept_alike delay session _ history _ kept rfl rfl rfl
  | noticed _ live =>
      exact kept_noticed delay session _ history paced kept live untied (by rw [delayed])
  | attempted deadline store event _ live _ waited due =>
      have here : deadline = session.now :=
        Nat.le_antisymm due (paced.ahead live deadline waited).2
      exact kept_attempted delay session _ history paced kept _ rfl (here ▸ waited) rfl

end Keeping

-- Wakes never come before those that are there already, so a tie stays a tie.
theorem untied_step (delay : Nat) (session next : Session) (history later : History)
    (paced : Paced session history) (tells : Tells session history next later)
    (untied : Untied delay later.wakes) : Untied delay history.wakes := by
  cases tells with
  | noticed => exact untied_before delay session.now history.wakes paced.woken untied
  | _ => exact untied

/-- On the clock of a session the attempts follow from the wakes. -/
theorem run_kept (first session : Session) (history : History) (run : Timed first history session)
    (waits : first.saveLoop.deadline = none) (live : first.shutdown = false)
    (untied : Untied first.settings.debounce history.wakes) :
    Kept first.settings.debounce session history := by
  induction run with
  | start =>
      exact {
        made := fun time => by simp [History.Attempted, History.empty, Due]
        pending := fun deadline pending => by simp [waits] at pending
        rising := List.Pairwise.nil }
  | step history session next move run moves timely ih =>
      have paced := run_paced first session history run waits live
      have tells := moves_tell session next history move moves
      have settings := (run_settings first session history (timed_run _ _ _ run)).1
      have kept := ih (untied_step _ session next history _ paced tells untied)
      exact kept_step _ session next history _ paced kept tells (by rw [settings]) untied

end FormEngine.AutoSave
