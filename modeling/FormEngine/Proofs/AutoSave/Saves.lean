import FormEngine.Proofs.AutoSave.Timeline
import FormEngine.Proofs.Store.Persistence
import FormEngine.Proofs.Values.Writes

/-!
What is saved, and when. A session attempts to save just when a wake has been left alone for the
delay, once each, and reports each attempt. An attempt leaves the present values in the store, where
they are loaded again as they were, or it leaves the store as it was. After a teardown there are no
attempts.
-/

namespace FormEngine.AutoSave

/-- The values were saved: their compact text is there, it is loaded again as the values, and nothing
changes under other keys. -/
structure Saved (settings : Settings) (schemaId : String) (session next : Session) : Prop where
  event : next.events = session.events ++
    [.saved (settings.keyPrefix ++ schemaId) session.state.values.toJson.compact.utf8ByteSize]
  stored : Keyed.find? (settings.keyPrefix ++ schemaId) next.store.entries =
    some session.state.values.toJson.compact
  loaded : Persistence.load MemoryStore.operations next.store (settings.storageKey schemaId)
    settings.maxBytes = some session.state.values
  others : ∀ key, key ≠ settings.keyPrefix ++ schemaId →
    Keyed.find? key next.store.entries = Keyed.find? key session.store.entries

/-- The values were refused for their shape, for their size or by the store, which is as it was. -/
structure Refused (settings : Settings) (schemaId : String) (session next : Session) : Prop where
  reason : ∃ error,
    Persistence.persist MemoryStore.operations session.store (settings.storageKey schemaId)
      session.state.values.toJson settings.maxBytes = .error error ∧
    next.events = session.events ++ [.skipped (settings.keyPrefix ++ schemaId) (skipReason error)]
  store : next.store = session.store

section Attempts

variable (settings : Settings) (schemaId : String) (session next : Session)

theorem save_outcome (own : session.settings = settings)
    (key : session.key = settings.storageKey schemaId) (ordered : session.state.values.Ordered) :
    Saved settings schemaId session session.save.1 ∨
      Refused settings schemaId session session.save.1 := by
  unfold Session.save saveSnapshot
  rw [own, key]
  cases saved : Persistence.persist MemoryStore.operations session.store
      (settings.storageKey schemaId) session.state.values.toJson settings.maxBytes with
  | error error => exact Or.inr ⟨⟨error, saved, rfl⟩, rfl⟩
  | ok store =>
      obtain ⟨found, loaded, others⟩ := MemoryStore.persisted session.store store _
        session.state.values settings.maxBytes ordered saved
      exact Or.inl ⟨rfl, found, loaded, others⟩

/-- A turn of the loop that reports nothing leaves the store alone; all others are attempts. -/
theorem turn_outcome (own : session.settings = settings)
    (key : session.key = settings.storageKey schemaId) (ordered : session.state.values.Ordered)
    (turn : session.turn? = some next) :
    (next.store = session.store ∧ next.events = session.events) ∨
      (session.shutdown = false ∧
        (Saved settings schemaId session next ∨ Refused settings schemaId session next)) := by
  cases turn_took session next turn with
  | begun => exact Or.inl ⟨rfl, rfl⟩
  | stopped => exact Or.inl ⟨rfl, rfl⟩
  | noticed => exact Or.inl ⟨rfl, rfl⟩
  | attempted deadline stage live =>
      right
      refine ⟨live, ?_⟩
      rcases save_outcome settings schemaId
        { session with saveLoop := ⟨.running, session.saveLoop.receiver, none⟩ } own key ordered with
        saved | refused
      · exact Or.inl ⟨saved.event, saved.stored, saved.loaded, saved.others⟩
      · exact Or.inr ⟨refused.reason, refused.store⟩

end Attempts

section Runs

variable (first session next : Session) (history : History)

theorem run_events (run : Run first history session) (silent : first.events = []) :
    session.events = history.attempts.map Attempt.event := by
  induction run with
  | start => exact silent
  | step history session next move _ moves ih =>
      have tells := moves_tell session next history move moves
      generalize history.follow session next = later at tells
      cases tells with
      | aside _ _ events => exact events.trans ih
      | torn _ _ _ events => exact events.trans ih
      | attempted deadline store event => simp [ih]
      | _ => exact ih

theorem moves_ordered (move : Move) (moves : Moves session move next)
    (ordered : session.state.values.Ordered) : next.state.values.Ordered := by
  cases moves with
  | write path value held =>
      exact FormState.set_value_ordered path value session.state held ordered
  | reset values held =>
      unfold Session.reset FormState.reset
      split
      · exact ordered
      · exact held
  | work next turn => cases turn_took session next turn <;> exact ordered
  | _ => exact ordered

theorem run_ordered (run : Run first history session) (ordered : first.state.values.Ordered) :
    session.state.values.Ordered := by
  induction run with
  | start => exact ordered
  | step history session next move _ moves ih => exact moves_ordered session next move moves ih

/-- Nobody takes a teardown back. -/
theorem run_down (run : Run first history session) (down : first.shutdown = true) :
    session.shutdown = true := by
  induction run with
  | start => exact down
  | step history session next move _ moves ih =>
      cases live : next.shutdown with
      | true => rfl
      | false =>
          have up := tells_live session next history _ (moves_tell session next history move moves) live
          exact up.symm.trans ih

end Runs

/-- At times that are over a session has attempted to save if and only if a save was due and no
teardown had come before. There is one attempt for each due time and one report for each attempt; a
turn that reports has saved the present values, which are loaded again as they were, or has been
refused and left the store alone; after a teardown no turn touches the store. -/
theorem debounced_snapshots_saved (schemaId : String) (settings : Settings) (state : FormState)
    (store : MemoryStore) (ordered : state.values.Ordered) (history : History) (session : Session)
    (run : Timed (Session.opened schemaId settings state store) history session)
    (untied : Untied settings.debounce history.wakes) :
    (∀ time,
      (history.Attempted time → Due settings.debounce history.wakes time ∧
        ∀ torn, history.torn = some torn → time ≤ torn) ∧
      (Due settings.debounce history.wakes time →
        (time < session.now ∨ (time = session.now ∧ session.turn? = none)) →
        (∀ torn, history.torn = some torn → time < torn) → history.Attempted time)) ∧
    (history.attempts.Pairwise fun first second => first.time < second.time) ∧
    session.events = history.attempts.map Attempt.event ∧
    (∀ next, session.turn? = some next →
      (next.store = session.store ∧ next.events = session.events) ∨
      (session.shutdown = false ∧
        (Saved settings schemaId session next ∨ Refused settings schemaId session next))) ∧
    (session.shutdown = true → ∀ told later next, Run session told later →
      later.turn? = some next → next.store = later.store) := by
  have started := timed_run _ session history run
  have loop : (Session.opened schemaId settings state store).saveLoop.deadline = none := rfl
  have paced := run_paced _ session history run loop rfl
  have kept := run_kept _ session history run loop rfl untied
  obtain ⟨own, key⟩ := run_settings _ session history started
  refine ⟨?_, kept.rising, run_events _ session history started rfl, ?_, ?_⟩
  · intro time
    constructor
    · intro attempted
      exact ⟨((kept.made time).mp attempted).1,
        fun torn told => (paced.torn torn told).2.2 time attempted⟩
    · intro due passed untorn
      refine (kept.made time).mpr ⟨due, ?_⟩
      intro waits
      cases told : history.torn with
      | some torn =>
          have early := untorn torn told
          have late := (paced.torn torn told).2.1 time waits
          omega
      | none =>
          obtain ⟨running, ahead⟩ := paced.ahead (paced.live told) time waits
          rcases passed with past | ⟨here, rests⟩
          · omega
          · have before := ((rests_iff session running).mp rests).2.2 time waits
            omega
  · intro next turn
    exact turn_outcome settings schemaId session next own key
      (run_ordered _ session history started ordered) turn
  · intro down told later next again turn
    have torn := run_down session later told again down
    cases turn_took later next turn with
    | attempted _ _ live => simp [torn] at live
    | _ => rfl

section Draft

/-- The session after a turn of its loop. -/
def turned (session : Session) : Session := session.turn?.getD session

def draft : Session := .opened "draft" .standard (FormState.create []) MemoryStore.empty

/-- The draft is edited once the loop has begun, and left alone. -/
def draftEdited : Session := (turned draft).setValue "a" (.text "1")

def draftDue : Session := { turned draftEdited with now := 300 }

def draftSaved : Session := turned draftDue

theorem turned_moves (session : Session) (turn : session.turn?.isSome = true) :
    Moves session .work (turned session) := by
  obtain ⟨next, took⟩ := Option.isSome_iff_exists.mp turn
  have same : turned session = next := by simp [turned, took]
  exact .work _ (same ▸ took)

theorem draft_timed : ∃ history, Timed draft history draftSaved ∧ history.wakes = [0] ∧
    history.torn = none := by
  have begun : Timed draft _ (turned draft) :=
    .step _ _ _ .work .start (turned_moves draft (by decide +kernel)) trivial
  have edited : Timed draft _ draftEdited :=
    .step _ _ _ (.write "a" (.text "1")) begun (.write "a" (.text "1") trivial) trivial
  have noticed : Timed draft _ (turned draftEdited) :=
    .step _ _ _ .work edited (turned_moves draftEdited (by decide +kernel)) trivial
  have rests : (turned draftEdited).turn?.isNone = true := by decide +kernel
  have waits : (turned draftEdited).saveLoop.deadline = some 300 := by decide +kernel
  have prompt : Timely (turned draftEdited) (.elapse 300) := by
    refine ⟨Option.isNone_iff_eq_none.mp rests, ?_⟩
    intro _ deadline pending
    exact Nat.le_of_eq (Option.some.inj (waits.symm.trans pending))
  have due : Timed draft _ draftDue :=
    .step _ _ _ (.elapse 300) noticed (.elapse 300 (by decide +kernel)) prompt
  exact ⟨_, .step _ _ _ .work due (turned_moves draftDue (by decide +kernel)) trivial,
    by decide +kernel, by decide +kernel⟩

theorem draft_saved_when_due : ∃ history, Timed draft history draftSaved ∧
    (∀ time, history.Attempted time ↔ time = 300) ∧
    draftSaved.stored = some "\x7b\"a\":\"1\"\x7d" := by
  obtain ⟨history, run, wakes, live⟩ := draft_timed
  have untied : Untied Settings.standard.debounce history.wakes := by
    intro wake listed later after tied
    rw [wakes] at listed after
    obtain rfl := List.mem_singleton.mp listed
    obtain rfl := List.mem_singleton.mp after
    simp [Settings.standard, Settings.standardDebounce] at tied
  have rests : draftSaved.turn?.isNone = true := by decide +kernel
  have now : 300 = draftSaved.now := by decide +kernel
  have times := (debounced_snapshots_saved "draft" .standard (FormState.create []) MemoryStore.empty
    ⟨List.Pairwise.nil, trivial⟩ history draftSaved run untied).1
  refine ⟨history, run, ?_, by decide +kernel⟩
  intro time
  constructor
  · intro attempted
    obtain ⟨⟨wake, listed, due, _⟩, _⟩ := (times time).1 attempted
    rw [wakes] at listed
    obtain rfl := List.mem_singleton.mp listed
    simpa [Settings.standard, Settings.standardDebounce] using due
  · rintro rfl
    refine (times 300).2 ⟨0, by simp [wakes], rfl, ?_⟩
      (Or.inr ⟨now, Option.isNone_iff_eq_none.mp rests⟩) ?_
    · intro later listed
      simp [wakes] at listed
      omega
    · intro torn told
      simp [live] at told

end Draft

end FormEngine.AutoSave
