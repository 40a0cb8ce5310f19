import FormEngine.AutoSave.Session
import FormEngine.Proofs.Integration.Deeds

/-!
Runs of a session that is saved while it is edited. The host writes, resets and tears down, anybody
else may change the store, the clock moves and the loop takes turns, in any order. Beside the session
a run keeps a history: what the loop saw as it began, when it saw a change, what it attempted to save
and when the session was torn down.
-/

namespace FormEngine.AutoSave

open Integration (Advances advances_refl advances_set advances_reset)

/-- A session around a state and a store that were there before. -/
def Session.opened (schemaId : String) (settings : Settings) (state : FormState)
    (store : MemoryStore) : Session :=
  { Session.create schemaId settings state.values with state, store }

section Turns

/-- The turns that the loop can take. -/
inductive Took (session : Session) : Session → Prop where
  | begun (stage : session.saveLoop.stage = .waiting) :
      Took session { session with saveLoop := ⟨.running, session.state.subscribe, none⟩ }
  | stopped (stage : session.saveLoop.stage = .running) (down : session.shutdown = true) :
      Took session { session with saveLoop := { session.saveLoop with stage := .ended } }
  | noticed (stage : session.saveLoop.stage = .running) (live : session.shutdown = false)
      (unseen : session.saveLoop.receiver.seen ≠ session.state.changes) :
      Took session
        { session with
          saveLoop := ⟨.running, session.state.subscribe,
            some (session.now + session.settings.debounce)⟩ }
  | attempted (deadline : Nat) (stage : session.saveLoop.stage = .running)
      (live : session.shutdown = false)
      (seen : session.saveLoop.receiver.seen = session.state.changes)
      (waited : session.saveLoop.deadline = some deadline) (due : deadline ≤ session.now) :
      Took session
        (Session.save { session with
          saveLoop := ⟨.running, session.saveLoop.receiver, none⟩ }).1

variable (session next : Session)

theorem turn_took (turn : session.turn? = some next) : Took session next := by
  obtain ⟨step, taken, rfl⟩ := Option.map_eq_some_iff.mp turn
  unfold SaveLoop.turn? at taken
  cases stage : session.saveLoop.stage with
  | ended => simp [stage] at taken
  | waiting =>
      simp only [stage] at taken
      obtain rfl := Option.some.inj taken
      exact .begun stage
  | running =>
      simp only [stage] at taken
      split at taken
      · rename_i down
        obtain rfl := Option.some.inj taken
        exact .stopped stage down
      · rename_i live
        have live : session.shutdown = false := by simpa using live
        split at taken
        · rename_i unseen
          obtain rfl := Option.some.inj taken
          exact .noticed stage live unseen
        · rename_i seen
          have seen : session.saveLoop.receiver.seen = session.state.changes := by simpa using seen
          split at taken
          · rename_i due
            obtain ⟨deadline, waited, due⟩ := (Option.any_eq_true _ _).mp due
            obtain rfl := Option.some.inj taken
            exact .attempted deadline stage live seen waited (by simpa using due)
          · simp at taken

/-- What an attempt leaves: the store, perhaps, and one more event. -/
theorem save_eq :
    ∃ store event, (session.save).1 = { session with store, events := session.events ++ [event] } :=
  ⟨_, _, rfl⟩

end Turns

inductive Move where
  | write (path : String) (value : FormValue)
  | reset (values : FormValues)
  | elapse (later : Nat)
  | cancelAll
  | discard
  | stock (store : MemoryStore)
  | work

/-- What is written keeps its groups in key order. -/
inductive Moves (session : Session) : Move → Session → Prop where
  | write (path : String) (value : FormValue) (ordered : value.Ordered) :
      Moves session (.write path value) (session.setValue path value)
  | reset (values : FormValues) (ordered : values.Ordered) :
      Moves session (.reset values) (session.reset values)
  | elapse (later : Nat) (forward : session.now ≤ later) :
      Moves session (.elapse later) { session with now := later }
  | cancelAll : Moves session .cancelAll session.cancelAll
  | discard : Moves session .discard session.discard
  | stock (store : MemoryStore) : Moves session (.stock store) { session with store }
  | work (next : Session) (turn : session.turn? = some next) : Moves session .work next

structure Attempt where
  time : Nat
  values : FormValues
  event : Event

structure History where
  -- The count of changes as the loop began.
  began : Option Nat
  -- When the running loop saw a change.
  wakes : List Nat
  attempts : List Attempt
  torn : Option Nat

namespace History

def empty : History := ⟨none, [], [], none⟩

/-- What can be seen of a move from outside. -/
def follow (session next : Session) (history : History) : History :=
  { began :=
      if session.saveLoop.stage = .waiting ∧ next.saveLoop.stage = .running then
        some session.state.changes
      else history.began
    wakes := history.wakes ++
      if session.saveLoop.stage = .running ∧
          next.saveLoop.receiver ≠ session.saveLoop.receiver then [session.now]
      else []
    attempts := history.attempts ++
      (next.events.drop session.events.length).map fun event =>
        ⟨session.now, session.state.values, event⟩
    torn :=
      if session.shutdown = false ∧ next.shutdown = true then some session.now else history.torn }

section Follow

variable (session next : Session) (history : History)

/-- Only turns of the loop and teardowns show. -/
theorem follow_quiet (held : next.saveLoop = session.saveLoop)
    (events : next.events = session.events) (shutdown : next.shutdown = session.shutdown) :
    history.follow session next = history := by
  have still : ¬ (session.saveLoop.stage = .waiting ∧ session.saveLoop.stage = .running) := by
    rintro ⟨waiting, running⟩
    simp [waiting] at running
  cases down : session.shutdown <;> simp [follow, held, still, events, shutdown, down]

theorem follow_torn (receiver : next.saveLoop.receiver = session.saveLoop.receiver)
    (stage : next.saveLoop.stage = session.saveLoop.stage ∨ next.saveLoop.stage = .ended)
    (events : next.events = session.events) (down : next.shutdown = true) :
    history.follow session next =
      { history with
        torn := if session.shutdown = false then some session.now else history.torn } := by
  have still : ¬ (session.saveLoop.stage = .waiting ∧ next.saveLoop.stage = .running) := by
    rintro ⟨waiting, running⟩
    rcases stage with same | ended
    · simp [same, waiting] at running
    · simp [ended] at running
  simp [follow, receiver, still, events, down]

theorem follow_begun (stage : session.saveLoop.stage = .waiting) :
    history.follow session
        { session with saveLoop := ⟨.running, session.state.subscribe, none⟩ } =
      { history with began := some session.state.changes } := by
  cases down : session.shutdown <;> simp [follow, stage, down]

theorem follow_noticed (stage : session.saveLoop.stage = .running)
    (unseen : session.saveLoop.receiver.seen ≠ session.state.changes) (deadline : Option Nat) :
    history.follow session
        { session with saveLoop := ⟨.running, session.state.subscribe, deadline⟩ } =
      { history with wakes := history.wakes ++ [session.now] } := by
  have moved : session.state.subscribe ≠ session.saveLoop.receiver := by
    intro same
    exact unseen (congrArg Receiver.seen same).symm
  cases down : session.shutdown <;> simp [follow, stage, moved, down]

theorem follow_attempted (stage : session.saveLoop.stage = .running) (store : MemoryStore)
    (event : Event) :
    history.follow session
        { session with
          saveLoop := ⟨.running, session.saveLoop.receiver, none⟩, store
          events := session.events ++ [event] } =
      { history with
        attempts := history.attempts ++ [⟨session.now, session.state.values, event⟩] } := by
  cases down : session.shutdown <;> simp [follow, stage, down]

end Follow

end History

/-- What a move leaves and what the history keeps of it: it is made aside from the loop, tears the
session down or is a turn of the loop. -/
inductive Tells (session : Session) (history : History) : Session → History → Prop where
  | aside (next : Session) (held : next.saveLoop = session.saveLoop)
      (events : next.events = session.events) (shutdown : next.shutdown = session.shutdown)
      (advances : Advances session.state next.state) : Tells session history next history
  | torn (next : Session) (deadline : next.saveLoop.deadline = session.saveLoop.deadline)
      (stage : next.saveLoop.stage = session.saveLoop.stage ∨ next.saveLoop.stage = .ended)
      (events : next.events = session.events) (state : next.state = session.state)
      (down : next.shutdown = true) (now : next.now = session.now) :
      Tells session history next { history with
        torn := if session.shutdown = false then some session.now else history.torn }
  | begun (stage : session.saveLoop.stage = .waiting) :
      Tells session history
        { session with saveLoop := ⟨.running, session.state.subscribe, none⟩ }
        { history with began := some session.state.changes }
  | stopped (stage : session.saveLoop.stage = .running) (down : session.shutdown = true) :
      Tells session history
        { session with saveLoop := { session.saveLoop with stage := .ended } } history
  | noticed (stage : session.saveLoop.stage = .running) (live : session.shutdown = false)
      (unseen : session.saveLoop.receiver.seen ≠ session.state.changes) :
      Tells session history
        { session with
          saveLoop := ⟨.running, session.state.subscribe,
            some (session.now + session.settings.debounce)⟩ }
        { history with wakes := history.wakes ++ [session.now] }
  | attempted (deadline : Nat) (store : MemoryStore) (event : Event)
      (stage : session.saveLoop.stage = .running) (live : session.shutdown = false)
      (seen : session.saveLoop.receiver.seen = session.state.changes)
      (waited : session.saveLoop.deadline = some deadline) (due : deadline ≤ session.now) :
      Tells session history
        { session with
          saveLoop := ⟨.running, session.saveLoop.receiver, none⟩, store
          events := session.events ++ [event] }
        { history with
          attempts := history.attempts ++ [⟨session.now, session.state.values, event⟩] }

section Telling

variable (session next : Session) (history : History)

theorem took_tells (took : Took session next) :
    Tells session history next (history.follow session next) := by
  cases took with
  | begun stage =>
      rw [History.follow_begun session history stage]
      exact .begun stage
  | stopped stage down =>
      have torn := History.follow_torn session
        { session with saveLoop := { session.saveLoop with stage := .ended } } history rfl
        (Or.inr rfl) rfl down
      have same : history.follow session
          { session with saveLoop := { session.saveLoop with stage := .ended } } = history := by
        simpa [down] using torn
      rw [same]
      exact .stopped stage down
  | noticed stage live unseen =>
      rw [History.follow_noticed session history stage unseen]
      exact .noticed stage live unseen
  | attempted deadline stage live seen waited due =>
      obtain ⟨store, event, saved⟩ :=
        save_eq { session with saveLoop := ⟨.running, session.saveLoop.receiver, none⟩ }
      rw [saved]
      dsimp only
      rw [History.follow_attempted session history stage store event]
      exact .attempted deadline store event stage live seen waited due

/-- Every move is one of these. -/
theorem moves_tell (move : Move) (moves : Moves session move next) :
    Tells session history next (history.follow session next) := by
  have aside : next.saveLoop = session.saveLoop → next.events = session.events →
      next.shutdown = session.shutdown → Advances session.state next.state →
      Tells session history next (history.follow session next) := by
    intro held events shutdown advances
    rw [History.follow_quiet session next history held events shutdown]
    exact .aside next held events shutdown advances
  cases moves with
  | write path value => exact aside rfl rfl rfl (advances_set path value session.state)
  | reset values => exact aside rfl rfl rfl (advances_reset values session.state)
  | elapse => exact aside rfl rfl rfl (advances_refl _)
  | stock => exact aside rfl rfl rfl (advances_refl _)
  | cancelAll =>
      rw [History.follow_torn session session.cancelAll history rfl (Or.inl rfl) rfl rfl]
      exact .torn _ rfl (Or.inl rfl) rfl rfl rfl rfl
  | discard =>
      rw [History.follow_torn session session.discard history rfl (Or.inr rfl) rfl rfl]
      exact .torn _ rfl (Or.inr rfl) rfl rfl rfl rfl
  | work next turn => exact took_tells session next history (turn_took session next turn)

-- A session that is not torn down was never torn down before.
theorem tells_live (later : History) (tells : Tells session history next later)
    (live : next.shutdown = false) : session.shutdown = false := by
  cases tells with
  | aside _ _ _ shutdown => exact shutdown.symm.trans live
  | torn _ _ _ _ _ down => simp [live] at down
  | _ => exact live

end Telling

inductive Run (first : Session) : History → Session → Prop where
  | start : Run first .empty first
  | step (history : History) (session next : Session) (move : Move)
      (run : Run first history session) (moves : Moves session move next) :
      Run first (history.follow session next) next

/-- A session keeps its key and its settings. -/
theorem moves_settings (session next : Session) (move : Move) (moves : Moves session move next) :
    next.settings = session.settings ∧ next.key = session.key := by
  cases moves with
  | work next turn => cases turn_took session next turn <;> exact ⟨rfl, rfl⟩
  | _ => exact ⟨rfl, rfl⟩

theorem run_settings (first session : Session) (history : History)
    (run : Run first history session) :
    session.settings = first.settings ∧ session.key = first.key := by
  induction run with
  | start => exact ⟨rfl, rfl⟩
  | step history session next move _ moves ih =>
      obtain ⟨settings, key⟩ := moves_settings session next move moves
      exact ⟨settings.trans ih.1, key.trans ih.2⟩

end FormEngine.AutoSave
