import FormEngine.Proofs.Store.Persistence

/-!
Calls on one store, one after another, where every call may find the store failing. A document is
there for a key from the call that saved it until the next one that saves or clears the key; calls
that end in an error, and all loads, leave every payload alone.
-/

namespace FormEngine.Persistence

inductive Call where
  | persist (key : String) (document : Json) (limit : Nat)
  | load (key : String) (limit : Nat)
  | clear (key : String)
  deriving DecidableEq

inductive Answer where
  | done
  | loaded (values : Option FormValues)
  | refused (error : PersistError)
  | failed (failure : StoreFailure)
  deriving DecidableEq

namespace Call

/-- The answer to a call, and the store after it. -/
def perform {Store : Type} (operations : StoreOperations Store) (store : Store) :
    Call → Answer × Store
  | .persist key document limit =>
      match Persistence.persist operations store key document limit with
      | .ok next => (.done, next)
      | .error error => (.refused error, store)
  | .load key limit => (.loaded (Persistence.load operations store key limit), store)
  | .clear key =>
      match Persistence.clear operations store key with
      | .ok next => (.done, next)
      | .error failure => (.failed failure, store)

/-- Every document has its members in key order, each key once. -/
def Proper : Call → Prop
  | .persist _ document _ => document.Ordered
  | _ => True

end Call

/-- A call that was made, and how it was answered. -/
structure Made where
  call : Call
  answer : Answer
  deriving DecidableEq

/-- The calls so far, on a store that was empty at first. -/
structure Trace where
  history : List Made
  store : MemoryStore

namespace Trace

def start : Trace := ⟨[], .empty⟩

def extend (trace : Trace) (failing : Option StoreFailure) (call : Call) : Trace :=
  let performed := call.perform MemoryStore.operations { trace.store with failing }
  ⟨trace.history ++ [⟨call, performed.1⟩], performed.2⟩

/-- Each call comes with what its access to the store fails with, if it does. -/
def of (calls : List (Option StoreFailure × Call)) : Trace :=
  calls.foldl (fun trace call => trace.extend call.1 call.2) start

end Trace

section Histories

/-- The call has put a document under the key, or has cleared it. -/
def Made.Replaces (key : String) (made : Made) : Prop :=
  made.answer = .done ∧
    (made.call = .clear key ∨ ∃ document limit, made.call = .persist key document limit)

/-- The document is the one that was saved last under the key, and was not cleared since. -/
def Kept (key : String) (document : Json) (history : List Made) : Prop :=
  ∃ before after limit, history = before ++ ⟨.persist key document limit, .done⟩ :: after ∧
    ∀ made ∈ after, ¬ made.Replaces key

variable (key : String) (document : Json) (history : List Made) (made : Made)

theorem kept_append :
    Kept key document (history ++ [made]) ↔
      (∃ limit, made = ⟨.persist key document limit, .done⟩) ∨
        (¬ made.Replaces key ∧ Kept key document history) := by
  constructor
  · rintro ⟨before, after, limit, same, silent⟩
    rcases List.eq_nil_or_concat after with rfl | ⟨others, last, rfl⟩
    · have ends := List.append_inj' same rfl
      exact Or.inl ⟨limit, List.singleton_inj.mp ends.2⟩
    · rw [List.concat_eq_append, ← List.cons_append, ← List.append_assoc] at same
      obtain ⟨earlier, ends⟩ := List.append_inj' same rfl
      obtain rfl := List.singleton_inj.mp ends
      refine Or.inr ⟨silent made (by simp), before, others, limit, earlier, ?_⟩
      intro other listed
      exact silent other (by simp [listed])
  · rintro (⟨limit, rfl⟩ | ⟨aside, before, after, limit, rfl, silent⟩)
    · exact ⟨history, [], limit, rfl, by simp⟩
    · refine ⟨before, after ++ [made], limit, by simp, ?_⟩
      intro other listed
      rcases List.mem_append.mp listed with earlier | last
      · exact silent other earlier
      · exact List.mem_singleton.mp last ▸ aside

theorem kept_aside (aside : ¬ made.Replaces key) :
    Kept key document (history ++ [made]) ↔ Kept key document history := by
  rw [kept_append]
  constructor
  · rintro (⟨limit, rfl⟩ | ⟨_, kept⟩)
    · exact absurd ⟨rfl, Or.inr ⟨document, limit, rfl⟩⟩ aside
    · exact kept
  · intro kept
    exact Or.inr ⟨aside, kept⟩

theorem kept_saved (saved : Json) (limit : Nat) :
    Kept key document (history ++ [⟨.persist key saved limit, .done⟩]) ↔ document = saved := by
  rw [kept_append]
  constructor
  · rintro (⟨_, same⟩ | ⟨aside, _⟩)
    · cases same
      rfl
    · exact absurd ⟨rfl, Or.inr ⟨saved, limit, rfl⟩⟩ aside
  · rintro rfl
    exact Or.inl ⟨limit, rfl⟩

theorem kept_cleared : ¬ Kept key document (history ++ [⟨.clear key, .done⟩]) := by
  rw [kept_append]
  rintro (⟨_, same⟩ | ⟨aside, _⟩)
  · simp at same
  · exact aside ⟨rfl, Or.inl rfl⟩

end Histories

section Steps

/-- What a call on a store can come to: the answer, and the entries after it. -/
inductive Performed (store : MemoryStore) : Call → Answer → List (String × String) → Prop where
  | saved (key : String) (document : Json) (limit : Nat) (working : store.failing = none)
      (shape : FormValues.hasShape document = true) (fits : document.byteSize ≤ limit) :
      Performed store (.persist key document limit) .done
        (Keyed.insert key document.compact store.entries)
  | cleared (key : String) (working : store.failing = none) :
      Performed store (.clear key) .done (Keyed.erase key store.entries)
  | aside (call : Call) (answer : Answer) (undone : answer ≠ .done) :
      Performed store call answer store.entries

theorem call_performed (store : MemoryStore) (call : Call) :
    Performed store call (call.perform MemoryStore.operations store).1
      (call.perform MemoryStore.operations store).2.entries := by
  cases call with
  | persist key document limit =>
      cases saved : persist MemoryStore.operations store key document limit with
      | ok next =>
          obtain ⟨shape, fits, accepted⟩ := (persist_ok_iff _ _ _ _ _ _).mp saved
          obtain ⟨working, rfl⟩ := (MemoryStore.set_ok_iff store next key _).mp accepted
          have outcome : Performed store (.persist key document limit) .done
              (Keyed.insert key document.compact store.entries) :=
            .saved key document limit working shape fits
          simpa [Call.perform, saved] using outcome
      | error error =>
          have outcome : Performed store (.persist key document limit) (.refused error)
              store.entries := .aside _ _ (by simp)
          simpa [Call.perform, saved] using outcome
  | load key limit => exact .aside _ _ (by simp [Call.perform])
  | clear key =>
      obtain ⟨entries, failing⟩ := store
      cases failing with
      | none => exact .cleared key rfl
      | some failure => exact .aside (.clear key) (.failed failure) (by simp)

/-- The entries are the compact texts of the documents that are kept. -/
structure Mirrors (history : List Made) (entries : List (String × String)) : Prop where
  sorted : Keyed.Sorted entries
  held : ∀ key payload, Keyed.find? key entries = some payload ↔
    ∃ document, Kept key document history ∧ document.compact = payload
  proper : ∀ key document, Kept key document history →
    document.Ordered ∧ FormValues.hasShape document = true

variable (history : List Made) (entries : List (String × String)) (mirrors : Mirrors history entries)

include mirrors

/-- A call that replaces what is under one key is judged there; elsewhere all is as before. -/
theorem mirrors_replaced (key : String) (made : Made) (next : List (String × String))
    (only : ∀ other, other ≠ key → ¬ made.Replaces other) (sorted : Keyed.Sorted next)
    (others : ∀ other, other ≠ key → Keyed.find? other next = Keyed.find? other entries)
    (held : ∀ payload, Keyed.find? key next = some payload ↔
      ∃ document, Kept key document (history ++ [made]) ∧ document.compact = payload)
    (proper : ∀ document, Kept key document (history ++ [made]) →
      document.Ordered ∧ FormValues.hasShape document = true) :
    Mirrors (history ++ [made]) next := by
  constructor
  case sorted =>
    exact sorted
  case held =>
    intro other payload
    by_cases same : other = key
    · exact same ▸ held payload
    · rw [others other same, mirrors.held]
      simp only [kept_aside other _ history made (only other same)]
  case proper =>
    intro other document kept
    by_cases same : other = key
    · exact proper document (same ▸ kept)
    · exact mirrors.proper other document
        ((kept_aside other document history made (only other same)).mp kept)

theorem mirrors_saved (key : String) (document : Json) (limit : Nat) (ordered : document.Ordered)
    (shape : FormValues.hasShape document = true) :
    Mirrors (history ++ [⟨.persist key document limit, .done⟩])
      (Keyed.insert key document.compact entries) := by
  apply mirrors_replaced history entries mirrors key
  case only =>
    intro other different
    simp [Made.Replaces, Ne.symm different]
  case sorted =>
    exact Keyed.insert_sorted key _ entries mirrors.sorted
  case others =>
    intro other different
    rw [Keyed.find_insert, if_neg different]
  case held =>
    intro payload
    simp [Keyed.find_insert, kept_saved]
  case proper =>
    intro held kept
    obtain rfl := (kept_saved key held history document limit).mp kept
    exact ⟨ordered, shape⟩

theorem mirrors_cleared (key : String) :
    Mirrors (history ++ [⟨.clear key, .done⟩]) (Keyed.erase key entries) := by
  apply mirrors_replaced history entries mirrors key
  case only =>
    intro other different
    simp [Made.Replaces, Ne.symm different]
  case sorted =>
    exact Keyed.erase_sorted key entries mirrors.sorted
  case others =>
    exact Keyed.find_erase_other key entries
  case held =>
    intro payload
    simp [Keyed.find_erase key entries mirrors.sorted, kept_cleared]
  case proper =>
    intro held kept
    exact absurd kept (kept_cleared key held history)

theorem mirrors_aside (call : Call) (answer : Answer) (undone : answer ≠ .done) :
    Mirrors (history ++ [⟨call, answer⟩]) entries := by
  have aside : ∀ key, ¬ Made.Replaces key ⟨call, answer⟩ := fun _ replaces => undone replaces.1
  constructor
  case sorted =>
    exact mirrors.sorted
  case held =>
    intro key payload
    simp only [kept_aside key _ history _ (aside key)]
    exact mirrors.held key payload
  case proper =>
    intro key document kept
    exact mirrors.proper key document ((kept_aside key document history _ (aside key)).mp kept)

end Steps

section Runs

theorem mirrors_start : Mirrors Trace.start.history Trace.start.store.entries := by
  have none : ∀ key document, ¬ Kept key document [] := by
    rintro key document ⟨before, after, limit, same, _⟩
    simp at same
  constructor
  case sorted => exact List.Pairwise.nil
  case held =>
    intro key payload
    simp [Trace.start, MemoryStore.empty, Keyed.find?, none]
  case proper =>
    intro key document kept
    exact absurd kept (none key document)

theorem mirrors_extend (trace : Trace) (failing : Option StoreFailure) (call : Call)
    (proper : call.Proper) (mirrors : Mirrors trace.history trace.store.entries) :
    Mirrors (trace.extend failing call).history (trace.extend failing call).store.entries := by
  have performed := call_performed { trace.store with failing } call
  unfold Trace.extend
  generalize call.perform MemoryStore.operations { trace.store with failing } = result at performed
  obtain ⟨answer, next⟩ := result
  dsimp only at performed ⊢
  generalize next.entries = entries at performed
  cases performed with
  | saved key document limit working shape fits =>
      exact mirrors_saved _ _ mirrors key document limit proper shape
  | cleared key working => exact mirrors_cleared _ _ mirrors key
  | aside call answer undone => exact mirrors_aside _ _ mirrors call answer undone

theorem mirrors_of (calls : List (Option StoreFailure × Call))
    (proper : ∀ each ∈ calls, each.2.Proper) :
    Mirrors (Trace.of calls).history (Trace.of calls).store.entries := by
  unfold Trace.of
  have start := mirrors_start
  generalize Trace.start = trace at start
  induction calls generalizing trace with
  | nil => exact start
  | cons call rest ih =>
      obtain ⟨first, later⟩ := List.forall_mem_cons.mp proper
      exact ih later _ (mirrors_extend trace call.1 call.2 first start)

end Runs

section Faithful

/-- What holds of a store after the calls, whether its next access fails or not. -/
structure Faithful (history : List Made) (store : MemoryStore) : Prop where
  holds : ∀ key payload, Keyed.find? key store.entries = some payload ↔
    ∃ document, Kept key document history ∧ document.compact = payload
  loads : ∀ key limit values,
    load MemoryStore.operations { store with failing := none } key limit = some values ↔
      ∃ document, Kept key document history ∧ document.byteSize ≤ limit ∧ values.toJson = document
  saves : ∀ failing key document limit,
    (∃ next, persist MemoryStore.operations { store with failing } key document limit = .ok next) ↔
      FormValues.hasShape document = true ∧ document.byteSize ≤ limit ∧
        ∃ next, MemoryStore.operations.set { store with failing } key document.compact = .ok next
  -- Every answer but `done` is an error or comes from a load.
  leaves : ∀ failing call answer next,
    Call.perform MemoryStore.operations { store with failing } call = (answer, next) →
      answer ≠ .done → next.entries = store.entries
  -- Any other store, whatever its operations do, gives the same refusal: none of them is asked.
  refuses : ∀ failing key document limit error,
    persist MemoryStore.operations { store with failing } key document limit = .error error →
      (∀ failure, error ≠ .store failure) →
      ∀ {Other : Type} (operations : StoreOperations Other) (other : Other),
        persist operations other key document limit = .error error

/-- Saving and clearing are all or nothing, and what is saved is what is loaded. -/
theorem calls_faithful (calls : List (Option StoreFailure × Call))
    (proper : ∀ each ∈ calls, each.2.Proper) :
    Faithful (Trace.of calls).history (Trace.of calls).store := by
  have mirrors := mirrors_of calls proper
  generalize Trace.of calls = trace at mirrors
  constructor
  case holds =>
    exact mirrors.held
  case loads =>
    intro key limit values
    rw [MemoryStore.load_iff]
    constructor
    · rintro ⟨_, payload, found, loaded⟩
      obtain ⟨document, kept, rfl⟩ := (mirrors.held key payload).mp found
      obtain ⟨ordered, shape⟩ := mirrors.proper key document kept
      exact ⟨document, kept, (payload_loaded document shape ordered limit values).mp loaded⟩
    · rintro ⟨document, kept, same⟩
      obtain ⟨ordered, shape⟩ := mirrors.proper key document kept
      exact ⟨rfl, document.compact, (mirrors.held key _).mpr ⟨document, kept, rfl⟩,
        (payload_loaded document shape ordered limit values).mpr same⟩
  case saves =>
    intro failing key document limit
    simp only [persist_ok_iff, exists_and_left]
  case leaves =>
    intro failing call answer next performed undone
    have outcome := call_performed { trace.store with failing } call
    rw [performed] at outcome
    dsimp only at outcome
    generalize next.entries = entries at outcome
    cases outcome with
    | saved => exact absurd rfl undone
    | cleared => exact absurd rfl undone
    | aside => rfl
  case refuses =>
    intro failing key document limit error refused own Other operations other
    cases error with
    | invalidShape =>
        exact (persist_shape_iff operations other key document limit).mpr
          ((persist_shape_iff _ _ key document limit).mp refused)
    | tooLarge bound size =>
        exact (persist_size_iff operations other key document limit bound size).mpr
          ((persist_size_iff _ _ key document limit bound size).mp refused)
    | store failure => exact absurd rfl (own failure)

end Faithful

section Letters

def letters (text : String) : Json := .obj [("a", .str text)]

/-- After the first save nothing succeeds for its key: a document is no form value, another is too
large, and the store fails twice. -/
def letterCalls : List (Option StoreFailure × Call) :=
  [(none, .persist "k" (letters "\n") 10), (none, .persist "k" (.obj [("a", .null)]) 100),
    (none, .persist "k" (letters "yy") 9), (some (.io "full"), .persist "k" (letters "z") 100),
    (some (.store "gone"), .clear "k"), (none, .clear "j")]

theorem letter_survives :
    load MemoryStore.operations { (Trace.of letterCalls).store with failing := none } "k" 10 =
        some [("a", .text "\n")] ∧
      load MemoryStore.operations { (Trace.of letterCalls).store with failing := none } "k" 9 =
        none := by
  have faithful := calls_faithful letterCalls (by
    simp [letterCalls, letters, Call.Proper, Json.Ordered, Json.OrderedMembers, Keyed.Sorted])
  have history : (Trace.of letterCalls).history =
      [⟨.persist "k" (letters "\n") 10, .done⟩,
        ⟨.persist "k" (.obj [("a", .null)]) 100, .refused .invalidShape⟩,
        ⟨.persist "k" (letters "yy") 9, .refused (.tooLarge 9 10)⟩,
        ⟨.persist "k" (letters "z") 100, .refused (.store (.io "full"))⟩,
        ⟨.clear "k", .failed (.store "gone")⟩, ⟨.clear "j", .done⟩] := by decide +kernel
  have kept : Kept "k" (letters "\n") (Trace.of letterCalls).history := by
    rw [history]
    exact ⟨[], _, 10, rfl, by simp [Made.Replaces]⟩
  have size : (letters "\n").byteSize = 10 := by decide +kernel
  constructor
  · exact (faithful.loads "k" 10 _).mpr ⟨letters "\n", kept, Nat.le_of_eq size, rfl⟩
  · decide +kernel

end Letters

end FormEngine.Persistence
