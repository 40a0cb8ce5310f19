import FormEngine.Proofs.AutoSave.Run

/-!
What is still to be saved. Once the loop has seen a change, the values of the latest attempt are the
present ones or a save is coming. Before that a change can be lost: the loop takes what it finds in
its first turn as seen, and no save comes for it until something changes again.
-/

namespace FormEngine.AutoSave

open Integration (Advances)

/-- The values of the latest attempt; without one, those that the session was opened with. -/
def History.reference (opened : FormValues) (history : History) : FormValues :=
  (history.attempts.getLast?.map Attempt.values).getD opened

/-- A save is coming once the loop waits for its deadline or has a change to see. A loop that has not
begun would have to see a change in its second turn. -/
def SaveComing (session : Session) : Prop :=
  (session.saveLoop.stage = .running ∧ (session.saveLoop.deadline.isSome = true ∨
    session.saveLoop.receiver.seen ≠ session.state.changes)) ∨
  (session.saveLoop.stage = .waiting ∧ ∃ next, session.turn? = some next ∧
    next.saveLoop.receiver.seen ≠ next.state.changes)

/-- How far a loop that was not torn down has come. -/
inductive Watches (session : Session) (history : History) : Prop where
  | waiting (stage : session.saveLoop.stage = .waiting) (began : history.began = none)
      (attempts : history.attempts = [])
  | begun (stage : session.saveLoop.stage = .running)
      (began : history.began = some session.saveLoop.receiver.seen)
      (attempts : history.attempts = []) (deadline : session.saveLoop.deadline = none)
      (behind : session.saveLoop.receiver.seen ≤ session.state.changes)
  | pending (count : Nat) (stage : session.saveLoop.stage = .running)
      (began : history.began = some count) (grown : count < session.state.changes)
      (deadline : session.saveLoop.deadline.isSome = true)
  | saved (count : Nat) (stage : session.saveLoop.stage = .running)
      (began : history.began = some count) (grown : count < session.state.changes)
      (earlier : List Attempt) (last : Attempt) (attempts : history.attempts = earlier ++ [last])
      (deadline : session.saveLoop.deadline = none)
      (behind : session.saveLoop.receiver.seen ≤ session.state.changes)
      (fresh : session.saveLoop.receiver.seen = session.state.changes →
        session.state.values = last.values)

section Steps

variable (session next : Session) (history later : History) (watches : Watches session history)

include watches

theorem watches_later (held : next.saveLoop = session.saveLoop)
    (advances : Advances session.state next.state) : Watches next history := by
  obtain ⟨grows, still⟩ := advances
  cases watches with
  | waiting stage began attempts => exact .waiting (held ▸ stage) began attempts
  | begun stage began attempts deadline behind =>
      rw [← held] at stage began deadline behind
      exact .begun stage began attempts deadline (Nat.le_trans behind grows)
  | pending count stage began grown deadline =>
      rw [← held] at stage deadline
      exact .pending count stage began (Nat.lt_of_lt_of_le grown grows) deadline
  | saved count stage began grown earlier last attempts deadline behind fresh =>
      rw [← held] at stage deadline behind fresh
      refine .saved count stage began (Nat.lt_of_lt_of_le grown grows) earlier last attempts deadline
        (Nat.le_trans behind grows) ?_
      intro seen
      have same : next.state.changes = session.state.changes :=
        Nat.le_antisymm (seen ▸ behind) grows
      rw [still same]
      exact fresh (seen.trans same)

theorem watches_step (tells : Tells session history next later) (live : next.shutdown = false) :
    Watches next later := by
  cases tells with
  | aside _ held _ _ advances => exact watches_later session next history watches held advances
  | torn _ _ _ _ _ down => simp [live] at down
  | stopped _ down => simp [down] at live
  | begun stage =>
      cases watches with
      | waiting _ _ attempts => exact .begun rfl rfl attempts rfl (Nat.le_refl _)
      | begun running => simp [running] at stage
      | pending _ running => simp [running] at stage
      | saved _ running => simp [running] at stage
  | noticed stage _ unseen =>
      cases watches with
      | waiting waits => simp [stage] at waits
      | begun _ began _ _ behind =>
          exact .pending _ rfl began (Nat.lt_of_le_of_ne behind unseen) rfl
      | pending count _ began grown => exact .pending count rfl began grown rfl
      | saved count _ began grown => exact .pending count rfl began grown rfl
  | attempted deadline store event stage _ seen waited =>
      cases watches with
      | waiting waits => simp [stage] at waits
      | begun _ _ _ idle => simp [waited] at idle
      | pending count _ began grown =>
          exact .saved count rfl began grown history.attempts _ rfl rfl (Nat.le_of_eq seen)
            fun _ => rfl
      | saved _ _ _ _ _ _ _ idle => simp [waited] at idle

end Steps

theorem run_watches (first session : Session) (history : History)
    (run : Run first history session) (waits : first.saveLoop.stage = .waiting)
    (live : session.shutdown = false) : Watches session history := by
  induction run with
  | start => exact .waiting waits rfl rfl
  | step history session next move run moves ih =>
      have tells := moves_tell session next history move moves
      exact watches_step session next history _ (ih (tells_live session next history _ tells live)) tells live

/-- An edit is lost, with no save coming for it, if it was made before the loop took its first turn
and nothing has changed since the loop began; it is never lost otherwise. -/
theorem edit_lost_iff (schemaId : String) (settings : Settings) (state : FormState)
    (store : MemoryStore) (enabled : settings.enabled = true) (history : History)
    (session : Session) (run : Run (Session.opened schemaId settings state store) history session)
    (live : session.shutdown = false) :
    session.state.values ≠ history.reference state.values ∧ ¬ SaveComing session ↔
      session.state.values ≠ state.values ∧ history.attempts = [] ∧
        (history.began = none ∨ history.began = some session.state.changes) := by
  have waits : (Session.opened schemaId settings state store).saveLoop.stage = .waiting := by
    simp [Session.opened, Session.create, SaveLoop.create, enabled]
  cases run_watches _ session history run waits live with
  | waiting stage began attempts =>
      have idle : ¬ SaveComing session := by
        rintro (⟨running, _⟩ | ⟨_, next, turn, unseen⟩)
        · simp [stage] at running
        · cases turn_took session next turn with
          | begun => exact unseen rfl
          | stopped running => simp [stage] at running
          | noticed running => simp [stage] at running
          | attempted _ running => simp [stage] at running
      simp [History.reference, attempts, began, idle]
  | begun stage began attempts deadline behind =>
      have coming : SaveComing session ↔
          session.saveLoop.receiver.seen ≠ session.state.changes := by
        simp [SaveComing, stage, deadline]
      simp [History.reference, attempts, began, coming]
  | pending count stage began grown deadline =>
      have coming : SaveComing session := Or.inl ⟨stage, Or.inl deadline⟩
      have older : count ≠ session.state.changes := Nat.ne_of_lt grown
      simp [coming, began, older]
  | saved count stage began grown earlier last attempts deadline behind fresh =>
      have reference : history.reference state.values = last.values := by
        simp [History.reference, attempts]
      have never : history.attempts ≠ [] := by simp [attempts]
      rw [reference]
      constructor
      · rintro ⟨differ, idle⟩
        refine absurd (Or.inl ⟨stage, Or.inr ?_⟩) idle
        intro seen
        exact differ (fresh seen)
      · rintro ⟨_, none, _⟩
        exact absurd none never

section Profile

/-- A profile that is saved while it is edited, with nothing in it yet. -/
def profile : Session :=
  .opened "profile" .standard (FormState.create []) MemoryStore.empty

/-- The first edit comes before the first turn of the loop. -/
def profileEdited : Session := profile.setValue "a" (.text "1")

def profileBegun : Session := (profileEdited.turn?).getD profileEdited

theorem profile_edit_lost :
    (∃ history, Run profile history profileBegun ∧
      profileBegun.state.values ≠ history.reference [] ∧ ¬ SaveComing profileBegun) ∧
    (profileEdited.sleep 1003).stored = none := by
  have turn : profileEdited.turn? = some profileBegun := by rfl
  have edited : Run profile _ profileEdited :=
    .step _ _ _ (.write "a" (.text "1")) .start (.write "a" (.text "1") trivial)
  have begun : Run profile _ profileBegun := .step _ _ _ .work edited (.work _ turn)
  refine ⟨⟨_, begun, ?_⟩, by decide +kernel⟩
  exact (edit_lost_iff "profile" .standard (FormState.create []) MemoryStore.empty rfl _ profileBegun
    begun (by decide +kernel)).mpr ⟨by decide +kernel, by rfl, Or.inr (by rfl)⟩

end Profile

end FormEngine.AutoSave
