import FormEngine.Proofs.Integration.Likeness
import FormEngine.Proofs.Values.Writes

/-!
What concerns a worker, and what it does about it. A course is a run that lists, move by move, what
one worker was told at what time. It also keeps an account of the worker: of everything that concerns
it, with its place among the worker's own turns of that time, and of every turn of its own that is
not merely a look at a change elsewhere. Its clock waits for the worker and for nobody else. The runs
on the clock of a session are courses.
-/

namespace FormEngine.Integration

/-- What can concern a worker: a write that a source leads to or starts from, by whomever, a reset
of all values, the outcome of its call, and the two ways of a teardown. -/
inductive Concern where
  | write (path : String) (value : FormValue)
  | reset (values : FormValues)
  | answer (outcome : Lookup.Outcome)
  | teardown
  | drop
  deriving DecidableEq

/-- What one move told a worker. The writes of one turn of another worker stay together. -/
structure Telling where
  time : Nat
  concerns : List Concern
  deriving DecidableEq

/-- A concern with its time, and how many turns of its own the worker had taken by then at that
time. -/
structure Notice where
  time : Nat
  place : Nat
  concern : Concern

/-- What a turn of the worker did: the calls it launched, what it recorded and what it wrote. -/
structure Report where
  time : Nat
  launched : List (String × Payload)
  happenings : List Happening
  written : List (String × FormValue)

structure Account where
  notices : List Notice
  place : Nat
  reports : List Report

section Concerns

instance (path longer : String) : Decidable (Path.Leads path longer) :=
  inferInstanceAs (Decidable (Path.segments path <+: Path.segments longer))

instance (left right : String) : Decidable (Path.Incomparable left right) :=
  inferInstanceAs (Decidable (¬ Path.Leads left right ∧ ¬ Path.Leads right left))

/-- Whether a write to the path could change what one of the sources holds. -/
def touches (sources : List String) (path : String) : Bool :=
  sources.any fun source => decide (¬ Path.Incomparable path source)

theorem touches_none (sources : List String) (path : String) (apart : touches sources path = false)
    (source : String) (listed : source ∈ sources) : Path.Incomparable path source := by
  simpa using List.any_eq_false.mp apart source listed

def concerning (sources : List String) (writes : List (String × FormValue)) : List Concern :=
  (writes.filter fun entry => touches sources entry.1).map fun entry => .write entry.1 entry.2

/-- A worker overlooks a change that left its sources as they were. -/
def Worker.overlooks (view : View) (worker : Worker) : Bool :=
  worker.stage = .running && !view.shutdown && worker.receiver.seen ≠ view.state.changes &&
    view.state.watch worker.integration.sources = worker.observed

variable (setup : Setup) (position : Nat) (session : Session)

/-- The turn that the worker at a position has to take. -/
def Session.turnAt (other : Nat) : Option (Worker × List Effect) :=
  session.workers[other]?.bind fun worker => worker.turn? (session.viewOf setup worker)

/-- What the turn of the worker at a position is going to write. -/
def Session.writesAt (other : Nat) : List (String × FormValue) :=
  match session.turnAt setup other with
  | some turn => written turn.2
  | none => []

def heard (worker : Worker) : Move → List Concern
  | .write path value => concerning worker.integration.sources [(path, value)]
  | .reset values => [.reset values]
  | .elapse _ => []
  | .cancelAll => [.teardown]
  | .discard => [.drop]
  | .work other =>
      if other = position then []
      else concerning worker.integration.sources (session.writesAt setup other)
  | .answer number call =>
      if worker.inFlight = some number then call.outcome.toList.map .answer else []

/-- A turn of the worker itself that does more than overlook. -/
def acted (worker : Worker) : Move → Option (List Effect)
  | .work other =>
      if other = position ∧ worker.overlooks (session.viewOf setup worker) = false then
        (session.turnAt setup position).map Prod.snd
      else none
  | _ => none

/-- What a move tells the worker at a position, if anything. -/
def Session.tellings (move : Move) : List Telling :=
  match session.workers[position]? with
  | none => []
  | some worker =>
      match heard setup position session worker move with
      | [] => []
      | concerns => [⟨session.now, concerns⟩]

def reportOf (time : Nat) (effects : List Effect) : Report :=
  ⟨time, launched effects, (records effects).map Event.happening, written effects⟩

end Concerns

namespace Account

def hear (time : Nat) (concerns : List Concern) (account : Account) : Account :=
  { account with
    notices := account.notices ++ concerns.map fun concern => ⟨time, account.place, concern⟩ }

def act (time : Nat) (effects : List Effect) (account : Account) : Account :=
  { account with place := account.place + 1, reports := account.reports ++ [reportOf time effects] }

/-- At a later time the worker has not taken any turns yet. -/
def later (now time : Nat) (account : Account) : Account :=
  if time = now then account else { account with place := 0 }

def follow (setup : Setup) (position : Nat) (session : Session) (move : Move) (account : Account) :
    Account :=
  match session.workers[position]? with
  | none => account
  | some worker =>
      match acted setup position session worker move with
      | some effects => account.act session.now effects
      | none =>
          match move with
          | .elapse time => account.later session.now time
          | move => account.hear session.now (heard setup position session worker move)

@[simp]
theorem hear_nothing (time : Nat) (account : Account) : account.hear time [] = account := by
  simp [hear]

theorem hear_more (time : Nat) (first rest : List Concern) (account : Account) :
    account.hear time (first ++ rest) = (account.hear time first).hear time rest := by
  simp [hear]

end Account

section Runs

variable (setup : Setup) (position : Nat)

/-- The clock stands still while the worker has a turn to take, and stops at its deadline. -/
def Punctual (session : Session) : Move → Prop
  | .elapse later =>
      session.workerTurn? setup position = none ∧
        ∀ worker, session.workers[position]? = some worker → worker.stage = .running →
          ∀ deadline, worker.deadline = some deadline → later ≤ deadline
  | _ => True

inductive Course (first : Session) : List Telling → Account → Session → Prop where
  | start : Course first [] ⟨[], 0, []⟩ first
  | step (told : List Telling) (account : Account) (session next : Session) (move : Move)
      (run : Course first told account session) (step : Step setup session move next)
      (punctual : Punctual setup position session move) :
      Course first (told ++ session.tellings setup position move)
        (account.follow setup position session move) next

theorem course_reachable (first session : Session) (told : List Telling) (account : Account)
    (run : Course setup position first told account session) : Reachable setup first session := by
  induction run with
  | start => exact .start
  | step told account session next move _ step _ ih => exact .step session next move ih step

/-- A clock that waits for everybody waits for the worker. -/
theorem timed_course (first session : Session) (history : History)
    (run : Timed setup position first history session) :
    ∃ told account, Course setup position first told account session := by
  induction run with
  | start => exact ⟨_, _, .start⟩
  | step history session next move _ step timely ih =>
      obtain ⟨told, account, course⟩ := ih
      refine ⟨_, _, .step told account session next move course step ?_⟩
      cases move with
      | elapse later =>
          refine ⟨timely.1 position, ?_⟩
          intro worker found
          exact timely.2 worker (List.mem_of_getElem? found)
      | _ => trivial

end Runs

section Scripts

variable (setup : Setup) (position : Nat)

instance (before after : Lookup.Call) : Decidable (SameRequest before after) :=
  inferInstanceAs (Decidable (_ ∧ _ ∧ _))

/-- The session after a move, if it can be made in a course. -/
def Session.after? (session : Session) : Move → Option Session
  | .write path value => some (session.setValue path value)
  | .reset values => some (session.reset values)
  | .elapse later =>
      if session.now ≤ later ∧ (session.workerTurn? setup position).isNone ∧
          session.workers[position]?.all (fun worker =>
            worker.stage ≠ .running || worker.deadline.all fun deadline => later ≤ deadline) then
        some { session with now := later }
      else none
  | .cancelAll => some session.cancelAll
  | .discard => some session.discard
  | .work other => session.workerTurn? setup other
  | .answer number after =>
      session.calls[number]?.bind fun call =>
        if call.outcome = none ∧ SameRequest call after then
          some { session with calls := session.calls.set number after }
        else none

/-- A course with what it has told so far. -/
structure Stretch where
  told : List Telling
  account : Account
  session : Session

/-- The course of a list of moves, if they can be made one after the other. -/
def Stretch.play (stretch : Stretch) : List Move → Option Stretch
  | [] => some stretch
  | move :: moves =>
      (stretch.session.after? setup position move).bind fun next =>
        play
          ⟨stretch.told ++ stretch.session.tellings setup position move,
            stretch.account.follow setup position stretch.session move, next⟩
          moves

/-- What was told by when, with the worker at rest. -/
def Stretch.endsWith (told : List Telling) (time : Nat) (stretch : Stretch) : Bool :=
  decide (stretch.told = told) && decide (stretch.session.now = time) &&
    (stretch.session.workerTurn? setup position).isNone

def script (first : Session) (moves : List Move) : Option Stretch :=
  Stretch.play setup position ⟨[], ⟨[], 0, []⟩, first⟩ moves

theorem after_step (session next : Session) (move : Move)
    (after : session.after? setup position move = some next) :
    Step setup session move next ∧ Punctual setup position session move := by
  cases move with
  | write path value =>
      obtain rfl := Option.some.inj after
      exact ⟨.write path value, trivial⟩
  | reset values =>
      obtain rfl := Option.some.inj after
      exact ⟨.reset values, trivial⟩
  | elapse later =>
      obtain ⟨⟨forward, rests, early⟩, same⟩ := Option.ite_none_right_eq_some.mp after
      obtain rfl := Option.some.inj same
      refine ⟨.elapse later forward, Option.isNone_iff_eq_none.mp rests, ?_⟩
      intro worker found running deadline waits
      simpa [found, running, waits] using early
  | cancelAll =>
      obtain rfl := Option.some.inj after
      exact ⟨.cancelAll, trivial⟩
  | discard =>
      obtain rfl := Option.some.inj after
      exact ⟨.discard, trivial⟩
  | work other => exact ⟨.work other next after, trivial⟩
  | answer number answered =>
      obtain ⟨call, known, after⟩ := Option.bind_eq_some_iff.mp after
      obtain ⟨⟨live, same⟩, after⟩ := Option.ite_none_right_eq_some.mp after
      obtain rfl := Option.some.inj after
      exact ⟨.answer number call answered known live same, trivial⟩

theorem play_course (first : Session) (moves : List Move) (stretch last : Stretch)
    (run : Course setup position first stretch.told stretch.account stretch.session)
    (played : stretch.play setup position moves = some last) :
    Course setup position first last.told last.account last.session := by
  induction moves generalizing stretch with
  | nil =>
      obtain rfl := Option.some.inj played
      exact run
  | cons move moves ih =>
      obtain ⟨next, after, played⟩ := Option.bind_eq_some_iff.mp played
      obtain ⟨step, punctual⟩ := after_step setup position _ next move after
      exact ih _ (.step _ _ _ next move run step punctual) played

/-- A script is a course, and what it comes to can be computed. -/
theorem script_course (first : Session) (moves : List Move) (shows : Stretch → Bool)
    (comes : (script setup position first moves).any shows = true) :
    ∃ told account session, Course setup position first told account session ∧
      shows ⟨told, account, session⟩ = true := by
  obtain ⟨last, played, shown⟩ := (Option.any_eq_true ..).mp comes
  exact ⟨_, _, _, play_course setup position first moves _ last .start played, shown⟩

end Scripts

section Turns

variable (setup : Setup) (position : Nat) (session : Session)

theorem turn_at (worker : Worker) (found : session.workers[position]? = some worker) :
    session.turnAt setup position = worker.turn? (session.viewOf setup worker) := by
  simp [Session.turnAt, found]

theorem overlooks_iff (view : View) (worker : Worker) :
    worker.overlooks view = true ↔
      worker.stage = .running ∧ view.shutdown = false ∧
        worker.receiver.seen ≠ view.state.changes ∧
        view.state.watch worker.integration.sources = worker.observed := by
  simp [Worker.overlooks, and_assoc]

theorem overlooking_turn (view : View) (worker : Worker) (overlooks : worker.overlooks view = true) :
    worker.turn? view = some ({ worker with receiver := view.state.subscribe }, []) := by
  obtain ⟨running, live, unseen, same⟩ := (overlooks_iff view worker).mp overlooks
  simp [Worker.turn?, running, live, unseen, Worker.notice, same]

/-- The writes of a turn, in the order in which the state takes them. -/
theorem work_writes (next : Session) (turn : session.workerTurn? setup position = some next) :
    SameValues next.state (writeAll (session.writesAt setup position) session.state) := by
  obtain ⟨worker, after, effects, found, taken, same⟩ :=
    worker_turn_effects setup position session next turn
  have wrote : session.writesAt setup position = written (deeds effects) := by
    rw [Session.writesAt, turn_at setup position session worker found, taken, written_deeds]
  rw [wrote, same]
  exact performed_writes (deeds effects) session.state session.state ⟨rfl, rfl⟩

/-- Workers whose targets have nothing to do with the sources tell it nothing. -/
theorem unconcerned (sources : List String) (writes : List (String × FormValue))
    (apart : ∀ entry ∈ writes, ∀ source ∈ sources, Path.Incomparable entry.1 source) :
    concerning sources writes = [] := by
  have none : ∀ entry ∈ writes, ¬ touches sources entry.1 = true := by
    intro entry listed touched
    obtain ⟨source, read, related⟩ := List.any_eq_true.mp touched
    simp only [decide_eq_true_eq] at related
    exact related (apart entry listed source read)
  rw [concerning, List.filter_eq_nil_iff.mpr none, List.map_nil]

theorem written_targets (worker : Worker) (view : View) (after : Worker) (effects : List Effect)
    (turn : worker.turn? view = some (after, effects)) (entry : String × FormValue)
    (listed : entry ∈ written effects) : entry.1 ∈ worker.integration.targets := by
  have took := turn_took view worker after effects turn
  rw [← written_deeds] at listed
  generalize deeds effects = acts at took listed
  cases took with
  | retired => simp [written_registered] at listed
  | started => simp [written_registered] at listed
  | stopped => simp [written_cancellation] at listed
  | overlooked => simp [written] at listed
  | noticed => simp [written_cancellation] at listed
  | launched => simp [written] at listed
  | lapsed => simp [written] at listed
  | completed number outcome =>
      rw [written_answer] at listed
      split at listed
      · obtain ⟨target, declared, named⟩ := List.mem_filterMap.mp listed
        obtain ⟨value, _, rfl⟩ := Option.map_eq_some_iff.mp named
        exact declared
      · simp at listed

end Turns

end FormEngine.Integration
