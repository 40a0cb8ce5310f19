import FormEngine.Proofs.AutoSave.Run

/-!
A session on its own clock. The clock of a timed run stands still while the loop has a turn to take
and stops at its deadline. At one time the loop takes two turns at most, so the clock of a session as
the program drives it makes a timed run.
-/

namespace FormEngine.AutoSave

/-- The clock stands still while the loop has a turn to take, and stops at its deadline. -/
def Timely (session : Session) : Move → Prop
  | .elapse later =>
      session.turn? = none ∧
        (session.saveLoop.stage = .running →
          ∀ deadline, session.saveLoop.deadline = some deadline → later ≤ deadline)
  | _ => True

inductive Timed (first : Session) : History → Session → Prop where
  | start : Timed first .empty first
  | step (history : History) (session next : Session) (move : Move)
      (run : Timed first history session) (moves : Moves session move next)
      (timely : Timely session move) : Timed first (history.follow session next) next

theorem timed_run (first session : Session) (history : History)
    (run : Timed first history session) : Run first history session := by
  induction run with
  | start => exact .start
  | step history session next move _ moves _ ih => exact .step history session next move ih moves

-- The clock of a session, as the program drives it.
section Driven

variable (first session : Session)

-- A running loop has a turn to take unless it is live, has seen everything and still waits.
theorem rests_iff (running : session.saveLoop.stage = .running) :
    session.turn? = none ↔ session.shutdown = false ∧
      session.saveLoop.receiver.seen = session.state.changes ∧
      ∀ deadline, session.saveLoop.deadline = some deadline → session.now < deadline := by
  unfold Session.turn? SaveLoop.turn?
  rw [Option.map_eq_none_iff]
  simp only [running]
  cases session.shutdown with
  | true => simp
  | false =>
      by_cases seen : session.saveLoop.receiver.seen = session.state.changes
      · cases session.saveLoop.deadline <;> simp [seen]
      · simp [seen]

/-- How many turns the loop can take before the clock moves. -/
def turnsLeft (session : Session) : Nat :=
  match session.saveLoop.stage with
  | .ended => 0
  | .waiting => 2
  | .running =>
      if session.shutdown then 1
      else if session.saveLoop.receiver.seen ≠ session.state.changes then 2
      else if session.saveLoop.deadline.isSome then 1
      else 0

theorem turn_left (next : Session) (turn : session.turn? = some next) :
    turnsLeft next < turnsLeft session := by
  cases turn_took session next turn with
  | begun stage =>
      cases session.shutdown <;> simp [turnsLeft, stage, FormState.subscribe]
  | stopped stage down => simp [turnsLeft, stage, down]
  | noticed stage live unseen => simp [turnsLeft, stage, live, unseen, FormState.subscribe]
  | attempted deadline stage live seen waited due =>
      obtain ⟨store, event, saved⟩ :=
        save_eq { session with saveLoop := ⟨.running, session.saveLoop.receiver, none⟩ }
      rw [saved]
      simp [turnsLeft, stage, live, seen, waited]

theorem turns_left_le : turnsLeft session ≤ 2 := by
  unfold turnsLeft
  split
  · omega
  · omega
  · split
    · omega
    · split
      · omega
      · split <;> omega

theorem settle_rests (fuel : Nat) (enough : turnsLeft session ≤ fuel) :
    (session.settle fuel).turn? = none := by
  induction fuel generalizing session with
  | zero =>
      rw [Session.settle]
      cases turn : session.turn? with
      | none => rfl
      | some next =>
          have less := turn_left session next turn
          omega
  | succ fuel ih =>
      rw [Session.settle]
      cases turn : session.turn? with
      | none => exact turn
      | some next =>
          have less := turn_left session next turn
          exact ih next (by omega)

/-- A settled session rests. -/
theorem settled_rests : session.settled.turn? = none :=
  settle_rests session 8 (Nat.le_trans (turns_left_le session) (by decide))

theorem turn_now (next : Session) (turn : session.turn? = some next) : next.now = session.now := by
  cases turn_took session next turn <;> rfl

theorem settle_timed (fuel : Nat) (history : History) (run : Timed first history session) :
    (∃ later, Timed first later (session.settle fuel)) ∧
      (session.settle fuel).now = session.now := by
  induction fuel generalizing session history with
  | zero => exact ⟨⟨history, run⟩, rfl⟩
  | succ fuel ih =>
      rw [Session.settle]
      cases turn : session.turn? with
      | none => exact ⟨⟨history, run⟩, rfl⟩
      | some next =>
          obtain ⟨later, now⟩ := ih next _ (.step history session next .work run (.work next turn)
            trivial)
          exact ⟨later, now.trans (turn_now session next turn)⟩

theorem join_timed (history : History) (run : Timed first history session) :
    ∃ later, Timed first later session.join :=
  (settle_timed first session.cancelAll 8 _
    (.step history session _ .cancelAll run .cancelAll trivial)).1

-- At its deadline the loop of a session that rests makes an attempt and rests again.
theorem settled_at_deadline (deadline : Nat) (rests : session.turn? = none)
    (running : session.saveLoop.stage = .running)
    (waits : session.saveLoop.deadline = some deadline) :
    (Session.settled { session with now := deadline }).saveLoop.deadline = none := by
  obtain ⟨live, seen, _⟩ := (rests_iff session running).mp rests
  have turn : Session.turn? { session with now := deadline } = some (Session.save
      { session with
        now := deadline, saveLoop := { session.saveLoop with deadline := none } }).1 := by
    simp [Session.turn?, SaveLoop.turn?, running, live, seen, waits]
  obtain ⟨store, event, saved⟩ := save_eq
    { session with now := deadline, saveLoop := { session.saveLoop with deadline := none } }
  rw [saved] at turn
  have after : Session.turn? { session with
      now := deadline, saveLoop := { session.saveLoop with deadline := none }, store
      events := session.events ++ [event] } = none := by
    apply (rests_iff _ ?_).mpr
    · exact ⟨live, seen, fun other pending => by cases pending⟩
    · exact running
  rw [Session.settled, Session.settle, turn]
  dsimp only
  rw [Session.settle, after]

theorem sleep_timed (duration : Nat) (history : History) (run : Timed first history session) :
    ∃ later, Timed first later (session.sleep duration) := by
  unfold Session.sleep
  split
  · exact ⟨history, run⟩
  · obtain ⟨⟨told, settled⟩, now⟩ := settle_timed first session 8 history run
    have rests := settled_rests session
    change Timed first told session.settled at settled
    change session.settled.now = session.now at now
    dsimp only
    cases waits : session.settled.saveLoop.deadline with
    | none =>
        exact ⟨_, .step told _ _ (.elapse _) settled (.elapse _ (by omega))
          ⟨rests, fun _ deadline pending => by simp [waits] at pending⟩⟩
    | some deadline =>
        dsimp only
        split
        · rename_i between
          simp only [Bool.and_eq_true, decide_eq_true_eq] at between
          obtain ⟨⟨running, ahead⟩, before⟩ := between
          have reached := Timed.step told session.settled { session.settled with now := deadline }
            (.elapse deadline) settled (.elapse deadline (Nat.le_of_lt ahead))
            ⟨rests, fun _ other pending => by
              rw [waits] at pending
              exact Nat.le_of_eq (Option.some.inj pending)⟩
          obtain ⟨⟨known, again⟩, there⟩ := settle_timed first _ 8 _ reached
          have saved := settled_at_deadline session.settled deadline rests running waits
          change (Session.settled { session.settled with now := deadline }).now = deadline at there
          refine ⟨_, .step known _ _ (.elapse _) again (.elapse _ ?_) ⟨settled_rests _, ?_⟩⟩
          · exact Nat.le_trans (Nat.le_of_eq there) (Nat.le_of_lt before)
          · intro _ other pending
            rw [Session.settled] at saved
            rw [saved] at pending
            cases pending
        · rename_i outside
          refine ⟨_, .step told _ _ (.elapse _) settled (.elapse _ (by omega)) ⟨rests, ?_⟩⟩
          intro running other pending
          rw [waits] at pending
          obtain rfl := Option.some.inj pending
          have ahead := ((rests_iff session.settled running).mp rests).2.2 deadline waits
          simp only [running, Bool.and_eq_true, decide_eq_true_eq, not_and, true_and] at outside
          have late := outside (by simpa using ahead)
          omega

end Driven

end FormEngine.AutoSave
