import Mathlib.Data.List.DropRight
import FormEngine.Proofs.Values.Effect

/-!
What a container of values publishes. Whatever is asked of it, its tree goes the way that the
requests mean, its version counts the requests that made a difference, and a receiver is told of a
change exactly when some request made one since the receiver looked last.

A write is skipped because of what one path holds, while these laws are about whole trees. The two
agree because writing what is there already changes nothing, and writing anything else does.
-/

namespace FormEngine.Publication

/-- What is asked of a container; receivers are numbered as they subscribe. -/
inductive Request where
  | set (path : String) (value : FormValue)
  | reset (values : FormValues)
  | register (path : String)
  | subscribe
  | poll (number : Nat)
  deriving DecidableEq

namespace Request

/-- Trees have their entries in key order. -/
def Proper : Request → Prop
  | .set _ value => value.Ordered
  | .reset values => values.Ordered
  | _ => True

/-- The tree that a request means to leave, whether or not it is a change. -/
def effect : Request → FormValues → FormValues
  | .set path value, values => values.setPath path value
  | .reset values, _ => values
  | _, values => values

end Request

/-- A container and its receivers. -/
structure Stage where
  state : FormState
  receivers : List Receiver

/-- The answer to a poll, and what is there after the request. -/
def Stage.perform (stage : Stage) : Request → Option Bool × Stage
  | .set path value => (none, { stage with state := stage.state.setValue path value })
  | .reset values => (none, { stage with state := stage.state.reset values })
  | .register path => (none, { stage with state := stage.state.register path })
  | .subscribe => (none, { stage with receivers := stage.receivers ++ [stage.state.subscribe] })
  | .poll number =>
      match stage.receivers[number]? with
      | none => (none, stage)
      | some receiver =>
          let (changed, looked) := stage.state.poll receiver
          (some changed, { stage with receivers := stage.receivers.set number looked })

/-- A request that was made, between the two stages around it. -/
structure Made where
  request : Request
  before : Stage
  after : Stage
  answer : Option Bool

def Stage.record (stage : Stage) (request : Request) : Made :=
  ⟨request, stage, (stage.perform request).2, (stage.perform request).1⟩

namespace Made

def Changes (made : Made) : Prop := made.after.state.values ≠ made.before.state.values

instance (made : Made) : Decidable made.Changes :=
  inferInstanceAs (Decidable (made.after.state.values ≠ made.before.state.values))

/-- The receiver with the number has seen everything: it subscribes, or it is polled. -/
def Looks (number : Nat) (made : Made) : Prop :=
  (made.request = .subscribe ∧ made.before.receivers.length = number) ∨
    (made.request = .poll number ∧ number < made.before.receivers.length)

instance (number : Nat) (made : Made) : Decidable (made.Looks number) :=
  inferInstanceAs (Decidable (_ ∨ _))

end Made

/-- What was made after the receiver looked last. -/
def sinceLook (number : Nat) (history : List Made) : List Made :=
  history.rtakeWhile fun made => ¬ made.Looks number

/-- The requests so far, and where they have led. -/
structure Course where
  history : List Made
  stage : Stage

namespace Course

def start (values : FormValues) : Course := ⟨[], ⟨.create values, []⟩⟩

def extend (course : Course) (request : Request) : Course :=
  ⟨course.history ++ [course.stage.record request], (course.stage.perform request).2⟩

def of (values : FormValues) (requests : List Request) : Course :=
  requests.foldl extend (start values)

end Course

section Steps

theorem since_append (number : Nat) (history : List Made) (made : Made) :
    sinceLook number (history ++ [made]) =
      if made.Looks number then [] else sinceLook number history ++ [made] := by
  by_cases looks : made.Looks number
  · simp [sinceLook, looks]
  · simp [sinceLook, looks]

variable (stage : Stage) (request : Request)

/-- A skipped write would have changed nothing. -/
theorem perform_values (ordered : stage.state.values.Ordered) :
    (stage.perform request).2.state.values = request.effect stage.state.values := by
  cases request with
  | set path value =>
      simp only [Stage.perform, FormState.setValue, Request.effect]
      split
      · rename_i found
        exact (FormValues.set_path_found _ path value ordered found).symm
      · rfl
  | reset values =>
      simp only [Stage.perform, FormState.reset, Request.effect]
      split
      · assumption
      · rfl
  | register path => rfl
  | subscribe => rfl
  | poll number =>
      cases found : stage.receivers[number]? <;> simp [Stage.perform, Request.effect, found]

-- A write that is made leaves another value at its path, so the trees differ.
theorem perform_changes :
    (stage.perform request).2.state.changes =
      if (stage.perform request).2.state.values = stage.state.values then stage.state.changes
      else stage.state.changes + 1 := by
  cases request with
  | set path value =>
      simp only [Stage.perform, FormState.setValue]
      split
      · simp
      · rename_i differs
        have other : stage.state.values.setPath path value ≠ stage.state.values := by
          intro same
          have held := FormValues.get_path_set_same path value stage.state.values
          exact differs (same ▸ held)
        simp [other]
  | reset values =>
      simp only [Stage.perform, FormState.reset]
      split
      · simp
      · rename_i differs
        simp [Ne.symm differs]
  | register path => simp [Stage.perform, FormState.register]
  | subscribe => simp [Stage.perform]
  | poll number =>
      cases found : stage.receivers[number]? <;> simp [Stage.perform, found]

theorem perform_ordered (proper : request.Proper) (ordered : stage.state.values.Ordered) :
    (stage.perform request).2.state.values.Ordered := by
  rw [perform_values stage request ordered]
  cases request with
  | set path value => exact FormValues.set_path_ordered path value _ proper ordered
  | reset values => exact proper
  | _ => exact ordered

theorem record_version :
    (stage.record request).after.state.version =
      if (stage.record request).Changes then (stage.state.version + 1) % Nat.pow 2 64
      else stage.state.version := by
  have counted := perform_changes stage request
  by_cases same : (stage.perform request).2.state.values = stage.state.values
  · simp [Made.Changes, Stage.record, FormState.version, counted, same]
  · rw [if_neg same] at counted
    simp [Made.Changes, Stage.record, FormState.version, counted, same]

/-- Only the receiver that looks comes to remember something else. -/
theorem perform_receivers (number : Nat) :
    (stage.perform request).2.receivers[number]? =
      if (stage.record request).Looks number then some ⟨(stage.perform request).2.state.changes⟩
      else stage.receivers[number]? := by
  cases request with
  | subscribe =>
      have looks : (stage.record .subscribe).Looks number ↔ stage.receivers.length = number := by
        simp [Stage.record, Made.Looks]
      simp only [Stage.perform, looks, FormState.subscribe, List.getElem?_append]
      by_cases earlier : number < stage.receivers.length
      · rw [if_pos earlier, if_neg (by omega)]
      · by_cases last : stage.receivers.length = number
        · simp [last]
        · have outside : stage.receivers.length < number := by omega
          rw [if_neg earlier, if_neg last, List.getElem?_eq_none (Nat.le_of_lt outside)]
          exact List.getElem?_eq_none (by simp only [List.length_singleton]; omega)
  | poll asked =>
      have looks : (stage.record (.poll asked)).Looks number ↔
          asked = number ∧ asked < stage.receivers.length := by
        simp only [Stage.record, Made.Looks, reduceCtorEq, false_and, false_or,
          Request.poll.injEq]
        exact and_congr_right fun same => by rw [same]
      cases found : stage.receivers[asked]? with
      | none =>
          have outside := List.getElem?_eq_none_iff.mp found
          simp only [Stage.perform, found, looks]
          rw [if_neg (by omega)]
      | some receiver =>
          have inside := (List.getElem?_eq_some_iff.mp found).1
          simp only [Stage.perform, found, looks, FormState.poll, List.getElem?_set, inside,
            and_true, if_true]
  | _ => simp [Stage.perform, Stage.record, Made.Looks]

/-- A poll tells whether the count has moved since the receiver looked. -/
theorem poll_answer (number : Nat) (receiver : Receiver)
    (held : stage.receivers[number]? = some receiver) :
    (stage.record (.poll number)).answer = some (receiver.seen != stage.state.changes) := by
  simp [Stage.record, Stage.perform, held, FormState.poll]

end Steps

/-- What is published along the requests, one by one. -/
structure Published (history : List Made) : Prop where
  effect : ∀ made ∈ history,
    made.after.state.values = made.request.effect made.before.state.values
  version : ∀ made ∈ history, made.after.state.version =
    if made.Changes then (made.before.state.version + 1) % Nat.pow 2 64
    else made.before.state.version
  polled : ∀ earlier made later number, history = earlier ++ made :: later →
    made.request = .poll number → (∃ look ∈ earlier, look.Looks number) →
      ∃ changed, made.answer = some changed ∧
        (changed = true ↔ ∃ change ∈ sinceLook number earlier, change.Changes)

section Runs

/-- A receiver remembers the count of its last look, and the count has grown by one with every
change made since. -/
structure Sound (course : Course) : Prop where
  ordered : course.stage.state.values.Ordered
  known : ∀ number, course.stage.receivers[number]?.isSome ↔
    ∃ look ∈ course.history, look.Looks number
  seen : ∀ number receiver, course.stage.receivers[number]? = some receiver →
    course.stage.state.changes =
      receiver.seen + (sinceLook number course.history).countP fun made => made.Changes
  published : Published course.history

theorem start_sound (values : FormValues) (ordered : values.Ordered) :
    Sound (Course.start values) := by
  constructor
  case ordered => exact ordered
  case known => simp [Course.start]
  case seen => simp [Course.start]
  case published => constructor <;> simp [Course.start]

section Extension

variable (course : Course) (request : Request) (sound : Sound course)

include sound

theorem poll_published (number : Nat) (looked : ∃ look ∈ course.history, look.Looks number) :
    ∃ changed, (course.stage.record (.poll number)).answer = some changed ∧
      (changed = true ↔ ∃ change ∈ sinceLook number course.history, change.Changes) := by
  obtain ⟨receiver, held⟩ := Option.isSome_iff_exists.mp ((sound.known number).mpr looked)
  refine ⟨_, poll_answer course.stage number receiver held, ?_⟩
  have counted := sound.seen number receiver held
  have changed : 0 < ((sinceLook number course.history).countP fun made => made.Changes) ↔
      ∃ change ∈ sinceLook number course.history, change.Changes := by
    simp [List.countP_pos_iff]
  rw [← changed, bne_iff_ne, counted]
  omega

theorem extend_published : Published (course.extend request).history := by
  constructor
  case effect =>
    intro made listed
    rcases List.mem_append.mp listed with earlier | last
    · exact sound.published.effect made earlier
    · obtain rfl := List.mem_singleton.mp last
      exact perform_values course.stage request sound.ordered
  case version =>
    intro made listed
    rcases List.mem_append.mp listed with earlier | last
    · exact sound.published.version made earlier
    · obtain rfl := List.mem_singleton.mp last
      exact record_version course.stage request
  case polled =>
    intro earlier made later number joined asked looked
    rcases List.eq_nil_or_concat later with rfl | ⟨others, last, rfl⟩
    · obtain ⟨rfl, ends⟩ := List.append_inj' joined rfl
      obtain rfl := List.singleton_inj.mp ends
      obtain rfl : request = .poll number := asked
      exact poll_published course sound number looked
    · rw [List.concat_eq_append, ← List.cons_append, ← List.append_assoc] at joined
      obtain ⟨before, _⟩ := List.append_inj' joined rfl
      exact sound.published.polled earlier made others number before asked looked

theorem extend_seen (number : Nat) (receiver : Receiver)
    (held : (course.extend request).stage.receivers[number]? = some receiver) :
    (course.extend request).stage.state.changes = receiver.seen +
      (sinceLook number (course.extend request).history).countP fun made => made.Changes := by
  rw [Course.extend] at held ⊢
  dsimp only at held ⊢
  have receivers := perform_receivers course.stage request number
  have counted := perform_changes course.stage request
  rw [held] at receivers
  rw [since_append]
  by_cases looks : (course.stage.record request).Looks number
  · rw [if_pos looks] at receivers ⊢
    cases receivers
    rfl
  · rw [if_neg looks] at receivers ⊢
    have before := sound.seen number receiver receivers.symm
    rw [List.countP_append, List.countP_singleton, counted, before]
    by_cases same : (course.stage.perform request).2.state.values = course.stage.state.values
    · have quiet : ¬ (course.stage.record request).Changes := fun changes => changes same
      simp [same, quiet]
    · have changes : (course.stage.record request).Changes := same
      simp [same, changes, Nat.add_assoc]

theorem extend_sound (proper : request.Proper) : Sound (course.extend request) := by
  constructor
  case ordered => exact perform_ordered course.stage request proper sound.ordered
  case known =>
    intro number
    rw [Course.extend, perform_receivers course.stage request number]
    by_cases looks : (course.stage.record request).Looks number
    · simp [looks]
    · simp [looks, sound.known number]
  case seen => exact extend_seen course request sound
  case published => exact extend_published course request sound

end Extension

theorem run_sound (course : Course) (requests : List Request) (sound : Sound course)
    (proper : ∀ request ∈ requests, request.Proper) :
    Sound (requests.foldl Course.extend course) := by
  induction requests generalizing course with
  | nil => exact sound
  | cons request rest ih =>
      obtain ⟨first, later⟩ := List.forall_mem_cons.mp proper
      exact ih (course.extend request) (extend_sound course request sound first) later

theorem requests_recorded (course : Course) (requests : List Request) :
    (requests.foldl Course.extend course).history.map Made.request =
      course.history.map Made.request ++ requests := by
  induction requests generalizing course with
  | nil => simp
  | cons request rest ih =>
      rw [List.foldl_cons, ih]
      simp [Course.extend, Stage.record]

end Runs

variable (values : FormValues) (requests : List Request)

/-- Along all requests to a container, the tree, the version and the answers to polls are as they
should be. -/
theorem changes_published (ordered : values.Ordered)
    (proper : ∀ request ∈ requests, request.Proper) :
    (Course.of values requests).history.map Made.request = requests ∧
      Published (Course.of values requests).history := by
  constructor
  · exact requests_recorded (Course.start values) requests
  · exact (run_sound _ requests (start_sound values ordered) proper).published

section Notes

/-- A note is written, and written again; the second time is no change. -/
def noteRequests : List Request :=
  [.subscribe, .set "note." (.text "x"), .set "note." (.text "x"), .poll 0, .register "note",
    .reset [("note", .group [("", .text "x")])], .poll 0]

theorem note_published :
    Published (Course.of [("note", .flag true)] noteRequests).history ∧
      (Course.of [("note", .flag true)] noteRequests).history.map Made.answer =
        [none, none, none, some true, none, none, some false] := by
  have ordered : FormValues.Ordered [("note", .flag true)] := by
    simp [FormValues.Ordered, FormValue.OrderedEntries, FormValue.Ordered, Keyed.Sorted]
  have proper : ∀ request ∈ noteRequests, request.Proper := by
    simp [noteRequests, Request.Proper, FormValues.Ordered, FormValue.OrderedEntries,
      FormValue.Ordered, Keyed.Sorted]
  exact ⟨(changes_published _ noteRequests ordered proper).2, by decide +kernel⟩

end Notes

end FormEngine.Publication
