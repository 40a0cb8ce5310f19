import FormEngine.Proofs.Integration.Concerns
import FormEngine.Proofs.Values.Effect

/-!
What an answer leaves in the state. It is written target by target, and a write may make groups on
its way or take away what stood there. So a target holds its value in the end if no later write
meets it, a path that no write meets holds what it held, and writes none of which meet may come in
any order.
-/

namespace FormEngine

namespace FormState

variable (path other : String) (value held : FormValue) (state : FormState)

theorem set_value_known (known : state.get path = some value) :
    state.setValue path value = state :=
  if_pos known

theorem set_value_new (new : state.get path ≠ some value) :
    state.setValue path value =
      { state with values := state.values.setPath path value, changes := state.changes + 1 } :=
  if_neg new

theorem get_set_value : (state.setValue path value).get path = some value := by
  by_cases known : state.get path = some value
  · rw [set_value_known path value state known, known]
  · rw [set_value_new path value state known]
    exact FormValues.get_path_set_same path value state.values

theorem get_set_value_apart (apart : Path.Incomparable path other) :
    (state.setValue path value).get other = state.get other :=
  source_set_apart path other value state apart

/-- Of two writes that do not meet either may come first; they count as changes in both orders. -/
theorem set_value_swap (ordered : state.values.Ordered) (apart : Path.Incomparable path other) :
    (state.setValue other held).setValue path value =
      (state.setValue path value).setValue other held := by
  have here : (state.setValue other held).get path = state.get path :=
    get_set_value_apart other path held state ⟨apart.2, apart.1⟩
  have there : (state.setValue path value).get other = state.get other :=
    get_set_value_apart path other value state apart
  by_cases known : state.get path = some value
  · rw [set_value_known path value _ (here.trans known), set_value_known path value state known]
  · by_cases kept : state.get other = some held
    · rw [set_value_known other held _ (there.trans kept), set_value_known other held state kept]
    · have swapped := FormValues.set_path_swap state.values path other value held ordered apart
      rw [set_value_new path value (state.setValue other held) (here ▸ known),
        set_value_new other held (state.setValue path value) (there ▸ kept),
        set_value_new path value state known, set_value_new other held state kept]
      simp only [swapped]

end FormState

namespace Integration

section Writes

variable (path : String) (value : FormValue) (writes : List (String × FormValue))
  (state : FormState)

theorem write_all_apart (apart : ∀ write ∈ writes, Path.Incomparable write.1 path) :
    (writeAll writes state).get path = state.get path := by
  induction writes generalizing state with
  | nil => rfl
  | cons write rest ih =>
      obtain ⟨first, others⟩ := List.forall_mem_cons.mp apart
      exact (ih (state.setValue write.1 write.2) others).trans
        (FormState.get_set_value_apart write.1 path write.2 state first)

theorem write_all_append (later : List (String × FormValue)) :
    writeAll (writes ++ later) state = writeAll later (writeAll writes state) :=
  List.foldl_append

/-- What is written last at, above and below a path is what the path holds. -/
theorem write_all_last (later : List (String × FormValue))
    (apart : ∀ write ∈ later, Path.Incomparable write.1 path) :
    (writeAll (writes ++ (path, value) :: later) state).get path = some value := by
  rw [write_all_append]
  exact (write_all_apart path later _ apart).trans (FormState.get_set_value path value _)

/-- The same write twice, or two that do not meet. -/
def Compatible (first second : String × FormValue) : Prop :=
  first = second ∨ Path.Incomparable first.1 second.1

theorem set_value_compatible (first second : String × FormValue) (ordered : state.values.Ordered)
    (compatible : Compatible first second) :
    (state.setValue second.1 second.2).setValue first.1 first.2 =
      (state.setValue first.1 first.2).setValue second.1 second.2 := by
  rcases compatible with rfl | apart
  · rfl
  · exact FormState.set_value_swap first.1 second.1 first.2 second.2 state ordered apart

-- Only ordered trees let writes change places, so the order has to be carried along.
theorem write_all_reordered (others : List (String × FormValue)) (perm : writes.Perm others)
    (held : ∀ write ∈ writes, write.2.Ordered)
    (compatible : ∀ first ∈ writes, ∀ second ∈ writes, Compatible first second)
    (ordered : state.values.Ordered) : writeAll writes state = writeAll others state := by
  induction perm generalizing state with
  | nil => rfl
  | cons write _ ih =>
      obtain ⟨inner, rest⟩ := List.forall_mem_cons.mp held
      refine ih _ rest ?_ (FormState.set_value_ordered write.1 write.2 state inner ordered)
      intro first early second late
      exact compatible first (List.mem_cons_of_mem _ early) second (List.mem_cons_of_mem _ late)
  | swap first second rest =>
      have swapped := set_value_compatible state first second ordered
        (compatible first (by simp) second (by simp))
      exact congrArg (writeAll rest) swapped
  | trans left _ ihLeft ihRight =>
      have same := fun write => left.mem_iff (a := write)
      refine (ihLeft state held compatible ordered).trans (ihRight state ?_ ?_ ordered)
      · exact fun write listed => held write ((same write).mpr listed)
      · exact fun first early second late =>
          compatible first ((same first).mpr early) second ((same second).mpr late)

end Writes

section Answers

/-- The answer has a value for the target: it stands under the last segment of its path. -/
def Names (answer : FormValues) (target : String) : Prop :=
  Keyed.contains (Path.lastSegment target) answer = true

instance (answer : FormValues) (target : String) : Decidable (Names answer target) :=
  inferInstanceAs (Decidable (Keyed.contains (Path.lastSegment target) answer = true))

variable (targets : List String) (answer : FormValues)

theorem mem_answered (write : String × FormValue) :
    write ∈ answered targets answer ↔
      write.1 ∈ targets ∧ Keyed.find? (Path.lastSegment write.1) answer = some write.2 := by
  obtain ⟨path, value⟩ := write
  simp only [answered, List.mem_filterMap, Option.map_eq_some_iff, Prod.mk.injEq]
  constructor
  · rintro ⟨target, listed, held, found, rfl, rfl⟩
    exact ⟨listed, found⟩
  · rintro ⟨listed, found⟩
    exact ⟨path, listed, value, found, rfl, rfl⟩

theorem names_iff (target : String) :
    Names answer target ↔ ∃ value, Keyed.find? (Path.lastSegment target) answer = some value :=
  Option.isSome_iff_exists

theorem named_of_answered (write : String × FormValue) (listed : write ∈ answered targets answer) :
    write.1 ∈ targets ∧ Names answer write.1 := by
  obtain ⟨target, found⟩ := (mem_answered targets answer write).mp listed
  exact ⟨target, (names_iff answer write.1).mpr ⟨write.2, found⟩⟩

theorem answered_split (front back : List String) (target : String) (value : FormValue)
    (found : Keyed.find? (Path.lastSegment target) answer = some value) :
    answered (front ++ target :: back) answer =
      answered front answer ++ (target, value) :: answered back answer := by
  simp [answered, List.filterMap_append, found]

theorem answered_ordered (ordered : answer.Ordered) :
    ∀ write ∈ answered targets answer, write.2.Ordered := by
  intro write listed
  have found := ((mem_answered targets answer write).mp listed).2
  have entry := Keyed.find_member (Path.lastSegment write.1) write.2 answer found
  have each := (FormValues.ordered_entries_iff answer).mp ordered.2
  exact each (Path.lastSegment write.1, write.2) entry

-- Targets with one path have one last segment, so the answer gives both the same value.
theorem answered_compatible
    (apart : ∀ first ∈ targets, ∀ second ∈ targets, Names answer first → Names answer second →
      first = second ∨ Path.Incomparable first second) :
    ∀ first ∈ answered targets answer, ∀ second ∈ answered targets answer,
      Compatible first second := by
  intro first early second late
  obtain ⟨early, found⟩ := (mem_answered targets answer first).mp early
  obtain ⟨late, met⟩ := (mem_answered targets answer second).mp late
  have named := (names_iff answer first.1).mpr ⟨first.2, found⟩
  have other := (names_iff answer second.1).mpr ⟨second.2, met⟩
  refine (apart _ early _ late named other).imp_left fun same => ?_
  rw [← same, found] at met
  exact Prod.ext same (Option.some.inj met)

end Answers

section Sessions

theorem perform_write_all (writes : List (String × FormValue)) (session : Session) :
    (writes.map fun write => Effect.write write.1 write.2).foldl Session.perform session =
      { session with state := writeAll writes session.state } := by
  induction writes generalizing session with
  | nil => rfl
  | cons write rest ih => exact ih (session.perform (.write write.1 write.2))

theorem perform_writes (worker : Worker) (answer : FormValues) (session : Session) :
    (worker.writes answer).foldl Session.perform session =
      { session with
        state := writeAll (answered worker.integration.targets answer) session.state } := by
  rw [worker_writes, perform_write_all]

theorem write_all_registered (writes : List (String × FormValue)) (state : FormState) :
    (writeAll writes state).registered = state.registered := by
  induction writes generalizing state with
  | nil => rfl
  | cons write rest ih =>
      refine (ih (state.setValue write.1 write.2)).trans ?_
      unfold FormState.setValue
      split <;> rfl

/-- What a session is after an answer has been written into the targets of a worker. -/
structure Applied (worker : Worker) (answer : FormValues) (before after : Session) : Prop where
  aside : after = { before with state := after.state } ∧
    after.state.registered = before.state.registered
  apart : ∀ path, (∀ target ∈ worker.integration.targets, Names answer target →
      Path.Incomparable target path) →
    after.state.get path = before.state.get path
  written : ∀ front target back, worker.integration.targets = front ++ target :: back →
    Names answer target →
    (∀ later ∈ back, Names answer later → Path.Incomparable target later) →
    after.state.get target = Keyed.find? (Path.lastSegment target) answer
  reordered : (∀ first ∈ worker.integration.targets, ∀ second ∈ worker.integration.targets,
      Names answer first → Names answer second →
      first = second ∨ Path.Incomparable first second) →
    ∀ other : Worker, other.integration.targets.Perm worker.integration.targets →
      (other.writes answer).foldl Session.perform before = after

/-- An answer touches the targets that it names and what they meet, and nothing else. -/
theorem answer_applied (worker : Worker) (answer : FormValues) (session : Session)
    (ordered : session.state.values.Ordered) (sorted : answer.Ordered) :
    Applied worker answer session ((worker.writes answer).foldl Session.perform session) := by
  rw [perform_writes]
  constructor
  case aside =>
    exact ⟨rfl, write_all_registered _ session.state⟩
  case apart =>
    intro path apart
    refine write_all_apart path _ session.state fun write listed => ?_
    obtain ⟨target, named⟩ := named_of_answered _ answer write listed
    exact apart write.1 target named
  case written =>
    intro front target back same named last
    obtain ⟨value, found⟩ := (names_iff answer target).mp named
    rw [same, found, answered_split answer front back target value found]
    refine write_all_last target value _ session.state _ fun write listed => ?_
    obtain ⟨later, met⟩ := named_of_answered back answer write listed
    have apart := last write.1 later met
    exact ⟨apart.2, apart.1⟩
  case reordered =>
    intro apart other perm
    have moved : (answered worker.integration.targets answer).Perm
        (answered other.integration.targets answer) := perm.symm.filterMap _
    rw [perform_writes, write_all_reordered _ session.state _ moved
      (answered_ordered _ answer sorted) (answered_compatible _ answer apart) ordered]

section Districts

/-- Two targets end alike, and a third one stands above the first. -/
def districtLookup : FormEngine.Integration :=
  { endpoint := "districtOf", sources := ["code"]
    targets := ["home.city", "zip", "work.city", "home"], debounce := none }

/-- A text stands where a target needs a group. -/
def districtForm : Session :=
  Session.create [("code", .text "1000"), ("work", .text "none"), ("zip", .text "1")] 500 []

def districtAnswer : FormValues := [("city", .text "Sofia"), ("country", .text "BG")]

theorem districts_applied :
    let worker := Worker.create 0 500 districtLookup
    let backwards := { districtLookup with targets := districtLookup.targets.reverse }
    let turned := Worker.create 0 500 backwards
    let after := (worker.writes districtAnswer).foldl Session.perform districtForm
    after.state.get "zip" = some (.text "1") ∧
      after.state.get "home.city" = some (.text "Sofia") ∧
      (turned.writes districtAnswer).foldl Session.perform districtForm = after := by
  intro worker backwards turned after
  have ordered : districtForm.state.values.Ordered := by
    simp [districtForm, Session.create, FormState.create, FormValues.Ordered,
      FormValue.OrderedEntries, FormValue.Ordered]
    decide
  have sorted : districtAnswer.Ordered := by
    simp [districtAnswer, FormValues.Ordered, FormValue.OrderedEntries, FormValue.Ordered]
    decide
  have applied := answer_applied worker districtAnswer districtForm ordered sorted
  refine ⟨?_, ?_, ?_⟩
  · exact (applied.apart "zip" (by decide)).trans (by decide)
  · have written := applied.written [] "home.city" ["zip", "work.city", "home"] rfl
    exact (written (by decide) (by decide)).trans (by decide)
  · exact applied.reordered (by decide) turned (List.reverse_perm _)

end Districts

end Sessions

end Integration

end FormEngine
