import FormEngine.Proofs.Store.Serving
import FormEngine.Proofs.Text.Order

/-!
Several stores on one database file, opened and closed in any order and each with its own limit.
Together they are one map: what the successful changes have left, in the order in which they were
made, through whichever store. A store shows of it what its limit has room for.
-/

namespace FormEngine.DurableStore

section Runs

structure Made where
  call : StoreCall
  answer : StoreAnswer
  deriving DecidableEq

inductive Action where
  | opening (settings : Settings)
  | closing (index : Nat)
  | calling (index : Nat) (call : StoreCall)

/-- A tree of files and the stores that are open in it, with the calls that were made and the limits
of all stores that were ever opened. -/
structure Shelf where
  tree : FileTree
  handles : List Handle
  limits : List Nat
  history : List Made

namespace Shelf

/-- A store that is not on a file shares nothing with others. -/
def opening (shelf : Shelf) (settings : Settings) : Shelf :=
  match openStore settings shelf.tree with
  | (tree, .ok (.file hold)) =>
      { shelf with
        tree, handles := shelf.handles ++ [⟨settings, hold⟩]
        limits := settings.maxPayload :: shelf.limits }
  | (tree, _) => { shelf with tree }

/-- The last one to leave takes the log away. -/
def closing (shelf : Shelf) (index : Nat) : Shelf :=
  match shelf.handles[index]? with
  | none => shelf
  | some handle =>
      let handles := shelf.handles.eraseIdx index
      let tree := if handles.isEmpty then (Home.file handle.hold).close shelf.tree else shelf.tree
      { shelf with tree, handles }

def calling (shelf : Shelf) (index : Nat) (call : StoreCall) : Shelf :=
  match shelf.handles[index]? with
  | none => shelf
  | some handle =>
      let (answer, tree) := handle.perform shelf.tree call
      { shelf with tree, history := shelf.history ++ [⟨call, answer⟩] }

def act (shelf : Shelf) : Action → Shelf
  | .opening settings => shelf.opening settings
  | .closing index => shelf.closing index
  | .calling index call => shelf.calling index call

/-- From a tree in which no store is open. -/
def run (tree : FileTree) (actions : List Action) : Shelf :=
  actions.foldl act ⟨tree, [], [], []⟩

end Shelf

end Runs

section Replay

/-- The map after a call: only a successful change counts. -/
def Made.replay (map : String → Option String) : Made → String → Option String
  | ⟨.set key payload, .done⟩ => fun other => if other = key then some payload else map other
  | ⟨.remove key, .done⟩ => fun other => if other = key then none else map other
  | _ => map

def replayed (history : List Made) : String → Option String :=
  history.foldl Made.replay fun _ => none

variable (history : List Made)

theorem replayed_snoc (made : Made) :
    replayed (history ++ [made]) = made.replay (replayed history) := by
  simp only [replayed, List.foldl_append, List.foldl_cons, List.foldl_nil]

theorem replay_set (map : String → Option String) (key payload other : String) :
    Made.replay map ⟨.set key payload, .done⟩ other =
      if other = key then some payload else map other := rfl

theorem replay_remove (map : String → Option String) (key other : String) :
    Made.replay map ⟨.remove key, .done⟩ other = if other = key then none else map other := rfl

theorem replay_undone (map : String → Option String) (made : Made) (undone : made.answer ≠ .done) :
    made.replay map = map := by
  unfold Made.replay
  split <;> first | exact absurd rfl undone | rfl

theorem replay_stored (map : String → Option String) (made : Made) (key payload : String)
    (there : made.replay map key = some payload) :
    made.call = .set key payload ∨ map key = some payload := by
  unfold Made.replay at there
  split at there
  · rename_i name stored
    by_cases same : key = name
    · rw [if_pos same] at there
      obtain rfl := Option.some.inj there
      exact Or.inl (by rw [same])
    · rw [if_neg same] at there
      exact Or.inr there
  · split at there
    · cases there
    · exact Or.inr there
  · exact Or.inr there

theorem fold_stored (map : String → Option String) (key payload : String)
    (there : history.foldl Made.replay map key = some payload) :
    (∃ made ∈ history, made.call = .set key payload) ∨ map key = some payload := by
  induction history generalizing map with
  | nil => exact Or.inr there
  | cons made rest ih =>
      rcases ih (made.replay map) there with ⟨later, listed, call⟩ | earlier
      · exact Or.inl ⟨later, List.mem_cons_of_mem _ listed, call⟩
      · rcases replay_stored map made key payload earlier with here | before
        · exact Or.inl ⟨made, List.mem_cons_self, here⟩
        · exact Or.inr before

/-- What the map has was given to a call. -/
theorem replayed_stored (key payload : String) (there : replayed history key = some payload) :
    ∃ made ∈ history, made.call = .set key payload :=
  (fold_stored history _ key payload there).resolve_right (by simp)

end Replay

section Invariant

/-- The table in the file, if there is one, is the map, and every open store is on the file. -/
structure Mirrors (place : Place) (shelf : Shelf) (rows : Rows) : Prop where
  table : tableAt place shelf.tree = some (some rows) ∨
    tableAt place shelf.tree = none ∧ rows = [] ∧ shelf.handles = []
  sorted : Keyed.Sorted rows
  same : ∀ key, (Keyed.find? key rows).map Database.Row.payload = replayed shelf.history key
  held : ∀ handle ∈ shelf.handles, handle.On place ∧ handle.settings.maxPayload ∈ shelf.limits

theorem served_replayed (limit : Nat) (rows next : Rows) (call : StoreCall) (answer : StoreAnswer)
    (served : Served limit rows call answer next) (sorted : Keyed.Sorted rows)
    (history : List Made)
    (same : ∀ key, (Keyed.find? key rows).map Database.Row.payload = replayed history key) :
    Keyed.Sorted next ∧ ∀ key, (Keyed.find? key next).map Database.Row.payload =
      replayed (history ++ [⟨call, answer⟩]) key := by
  by_cases done : answer = .done
  · subst done
    rw [replayed_snoc]
    cases served with
    | stored key payload =>
        refine ⟨Keyed.insert_sorted key _ rows sorted, fun other => ?_⟩
        rw [Keyed.find_insert, replay_set]
        by_cases here : other = key
        · rw [if_pos here, if_pos here]
          rfl
        · rw [if_neg here, if_neg here, same]
    | erased key =>
        refine ⟨Keyed.erase_sorted key rows sorted, fun other => ?_⟩
        rw [replay_remove]
        by_cases here : other = key
        · rw [if_pos here, here, Keyed.find_erase key rows sorted]
          rfl
        · rw [if_neg here, Keyed.find_erase_other key rows other here, same]
  · obtain rfl := served_undone limit rows next answer call served done
    rw [replayed_snoc, replay_undone _ _ done]
    exact ⟨sorted, same⟩

variable (place : Place) (shelf : Shelf) (rows : Rows) (mirrors : Mirrors place shelf rows)

include mirrors

/-- Stores come and go: the table stays, or it begins with nothing in it. -/
theorem kept_mirrors (tree : FileTree) (handles : List Handle) (limits : List Nat)
    (kept : tableAt place tree = tableAt place shelf.tree ∨
      tableAt place shelf.tree = none ∧ tableAt place tree = some (some []))
    (present : handles ≠ [] → (tableAt place tree).isSome)
    (held : ∀ handle ∈ handles, handle.On place ∧ handle.settings.maxPayload ∈ limits) :
    Mirrors place { shelf with tree, handles, limits } rows := by
  constructor
  case table =>
    rcases mirrors.table with table | ⟨absent, empty, _⟩
    · rcases kept with stays | ⟨missing, _⟩
      · exact Or.inl (stays.trans table)
      · rw [table] at missing
        cases missing
    · rcases kept with stays | ⟨_, begun⟩
      · have vacant := stays.trans absent
        refine Or.inr ⟨vacant, empty, Decidable.byContradiction fun some => ?_⟩
        have there := present some
        rw [vacant] at there
        cases there
      · exact Or.inl (by rw [begun, empty])
  case sorted => exact mirrors.sorted
  case same => exact mirrors.same
  case held => exact held

theorem table_present (handle : Handle) (member : handle ∈ shelf.handles) :
    tableAt place shelf.tree = some (some rows) := by
  rcases mirrors.table with table | ⟨_, _, closed⟩
  · exact table
  · rw [closed] at member
    cases member

theorem opening_mirrors (settings : Settings) (leads : settings.LeadTo place) :
    Mirrors place (shelf.opening settings) rows := by
  obtain ⟨location, writable, opened⟩ := store_opened settings shelf.tree place leads
  unfold Shelf.opening
  generalize openStore settings shelf.tree = result at opened ⊢
  obtain ⟨tree, outcome⟩ := result
  dsimp only at opened
  have unshared : Mirrors place { shelf with tree } rows := by
    apply kept_mirrors place shelf rows mirrors tree shelf.handles shelf.limits opened.kept
    case present =>
      intro some
      obtain ⟨handle, member⟩ := List.exists_mem_of_ne_nil _ some
      have table := table_present place shelf rows mirrors handle member
      rcases opened.kept with stays | ⟨_, begun⟩
      · rw [stays, table]
        rfl
      · rw [begun]
        rfl
    case held => exact mirrors.held
  cases outcome with
  | error error => exact unshared
  | ok home =>
      cases home with
      | memory storage database => exact unshared
      | file hold =>
          obtain ⟨there, named, held, same, on, known⟩ := opened.held _ rfl
          obtain rfl := Home.file.inj same
          apply kept_mirrors place shelf rows mirrors tree _ _ opened.kept fun _ => there
          intro handle listed
          rcases List.mem_append.mp listed with earlier | added
          · have old := mirrors.held handle earlier
            exact ⟨old.1, List.mem_cons_of_mem _ old.2⟩
          · obtain rfl := List.mem_singleton.mp added
            exact ⟨⟨on, named, by rw [known, writable]⟩, List.mem_cons_self⟩

theorem closing_mirrors (index : Nat) : Mirrors place (shelf.closing index) rows := by
  unfold Shelf.closing
  cases listed : shelf.handles[index]? with
  | none => exact mirrors
  | some handle =>
      have member := List.mem_of_getElem? listed
      have on := (mirrors.held handle member).1
      have table := table_present place shelf rows mirrors handle member
      have kept : tableAt place (if (shelf.handles.eraseIdx index).isEmpty then
          (Home.file handle.hold).close shelf.tree else shelf.tree) =
            tableAt place shelf.tree := by
        split
        · rw [Home.close, on.there]
          exact content_table _ place _ (content_leave place on.named _ _)
        · rfl
      apply kept_mirrors place shelf rows mirrors _ _ _ (Or.inl kept)
      case present =>
        intro _
        rw [kept, table]
        rfl
      case held =>
        intro other listed
        exact mirrors.held other (List.mem_of_mem_eraseIdx listed)

theorem calling_mirrors (index : Nat) (call : StoreCall) :
    ∃ next, Mirrors place (shelf.calling index call) next := by
  unfold Shelf.calling
  cases listed : shelf.handles[index]? with
  | none => exact ⟨rows, mirrors⟩
  | some handle =>
      have member := List.mem_of_getElem? listed
      have on := (mirrors.held handle member).1
      have table := table_present place shelf rows mirrors handle member
      obtain ⟨next, served, kept, _⟩ := handle.perform_served place on shelf.tree rows table call
      obtain ⟨sorted, same⟩ :=
        served_replayed _ rows next call _ served mirrors.sorted shelf.history mirrors.same
      refine ⟨next, ?_⟩
      constructor
      case table => exact Or.inl kept
      case sorted => exact sorted
      case same => exact same
      case held => exact mirrors.held

end Invariant

section Memory

/-- A call that every store with one of the limits takes. -/
def Fits (limits : List Nat) (call : StoreCall) : Prop :=
  IsStoreKey call.key ∧
    ∀ key payload, call = .set key payload → ∀ limit ∈ limits, payload.utf8ByteSize ≤ limit

/-- A store in memory that has the map. -/
structure Recalls (map : String → Option String) (store : MemoryStore) : Prop where
  working : store.failing = none
  sorted : Keyed.Sorted store.entries
  same : ∀ key, Keyed.find? key store.entries = map key

theorem recalls_get (map : String → Option String) (store : MemoryStore)
    (recalls : Recalls map store) (key : String) :
    StoreCall.perform MemoryStore.operations store (.get key) = (.found (map key), store) := by
  rw [← recalls.same]
  simp only [StoreCall.perform, MemoryStore.operations, MemoryStore.access, recalls.working]

theorem recalls_set (map : String → Option String) (store : MemoryStore)
    (recalls : Recalls map store) (key payload : String) :
    Recalls (Made.replay map ⟨.set key payload, .done⟩)
      { store with entries := Keyed.insert key payload store.entries } := by
  refine ⟨recalls.working, Keyed.insert_sorted key payload _ recalls.sorted, fun other => ?_⟩
  rw [replay_set, ← recalls.same, Keyed.find_insert]

theorem recalls_remove (map : String → Option String) (store : MemoryStore)
    (recalls : Recalls map store) (key : String) :
    Recalls (Made.replay map ⟨.remove key, .done⟩)
      { store with entries := Keyed.erase key store.entries } := by
  refine ⟨recalls.working, Keyed.erase_sorted key _ recalls.sorted, fun other => ?_⟩
  rw [replay_remove]
  by_cases here : other = key
  · rw [if_pos here, here, Keyed.find_erase key _ recalls.sorted]
  · rw [if_neg here, Keyed.find_erase_other key _ other here, recalls.same]

theorem served_recalled (limit : Nat) (rows next : Rows) (call : StoreCall) (answer : StoreAnswer)
    (served : Served limit rows call answer next) (map : String → Option String)
    (same : ∀ key, (Keyed.find? key rows).map Database.Row.payload = map key)
    (store : MemoryStore) (recalls : Recalls map store) (fits : Fits [limit] call)
    (within : ∀ key payload, map key = some payload → payload.utf8ByteSize ≤ limit) :
    ∃ after, call.perform MemoryStore.operations store = (answer, after) ∧
      Recalls (Made.replay map ⟨call, answer⟩) after := by
  obtain ⟨entries, failing⟩ := store
  obtain rfl := recalls.working
  cases served with
  | missing key proper absent =>
      have found := recalls_get map _ recalls key
      rw [← same, absent] at found
      exact ⟨_, found, recalls⟩
  | found key row proper held small =>
      have found := recalls_get map _ recalls key
      rw [← same, held] at found
      exact ⟨_, found, recalls⟩
  | withheld key message row proper held large =>
      have stored := (same key).symm
      rw [held] at stored
      exact absurd (within key row.payload stored) (Nat.not_le.mpr large)
  | stored key payload proper small => exact ⟨_, rfl, recalls_set map _ recalls key payload⟩
  | oversized key payload message proper large =>
      have small := fits.2 key payload rfl limit List.mem_cons_self
      exact absurd small (Nat.not_le.mpr large)
  | erased key proper => exact ⟨_, rfl, recalls_remove map _ recalls key⟩
  | improper call message improper => exact absurd fits.1 improper

/-- A store in memory that was empty at first gives the same answers and comes to the same map. -/
def Remembered (history : List Made) : Prop :=
  ∃ store, Recalls (replayed history) store ∧
    StoreCall.performAll MemoryStore.operations .empty (history.map Made.call) =
      (history.map Made.answer, store)

theorem remembered_snoc (history : List Made) (remembered : Remembered history) (limit : Nat)
    (rows next : Rows) (call : StoreCall) (answer : StoreAnswer)
    (served : Served limit rows call answer next)
    (same : ∀ key, (Keyed.find? key rows).map Database.Row.payload = replayed history key)
    (fits : ∀ made ∈ history ++ [⟨call, answer⟩], Fits [limit] made.call) :
    Remembered (history ++ [⟨call, answer⟩]) := by
  obtain ⟨store, recalls, performed⟩ := remembered
  have within (key payload : String) (there : replayed history key = some payload) :
      payload.utf8ByteSize ≤ limit := by
    obtain ⟨made, listed, stored⟩ := replayed_stored history key payload there
    have earlier := fits made (List.mem_append_left _ listed)
    exact earlier.2 key payload stored limit List.mem_cons_self
  obtain ⟨after, answered, recalled⟩ :=
    served_recalled limit rows next call answer served (replayed history) same store recalls
      (fits _ (List.mem_append_right _ List.mem_cons_self)) within
  refine ⟨after, replayed_snoc history _ ▸ recalled, ?_⟩
  rw [List.map_append, List.map_singleton, StoreCall.perform_all_snoc, performed, answered,
    List.map_append, List.map_singleton]

end Memory

section Shared

/-- What is kept of a shelf while stores are opened on the place, closed and called. -/
structure Sound (place : Place) (shelf : Shelf) : Prop where
  mirrors : ∃ rows, Mirrors place shelf rows
  remembers : (∀ made ∈ shelf.history, Fits shelf.limits made.call) → Remembered shelf.history

variable (place : Place) (shelf : Shelf) (sound : Sound place shelf)

theorem fits_limit (limits : List Nat) (limit : Nat) (listed : limit ∈ limits) (call : StoreCall)
    (fits : Fits limits call) : Fits [limit] call := by
  refine ⟨fits.1, fun key payload same other single => ?_⟩
  obtain rfl := List.mem_singleton.mp single
  exact fits.2 key payload same other listed

include sound

theorem opening_sound (settings : Settings) (leads : settings.LeadTo place) :
    Sound place (shelf.opening settings) := by
  obtain ⟨rows, mirrors⟩ := sound.mirrors
  refine ⟨⟨rows, opening_mirrors place shelf rows mirrors settings leads⟩, ?_⟩
  unfold Shelf.opening
  split
  · intro fits
    apply sound.remembers
    intro made listed
    obtain ⟨proper, small⟩ := fits made listed
    exact ⟨proper, fun key payload same limit known =>
      small key payload same limit (List.mem_cons_of_mem _ known)⟩
  · exact sound.remembers

theorem closing_sound (index : Nat) : Sound place (shelf.closing index) := by
  obtain ⟨rows, mirrors⟩ := sound.mirrors
  refine ⟨⟨rows, closing_mirrors place shelf rows mirrors index⟩, ?_⟩
  unfold Shelf.closing
  split
  · exact sound.remembers
  · exact sound.remembers

theorem calling_sound (index : Nat) (call : StoreCall) : Sound place (shelf.calling index call) := by
  obtain ⟨rows, mirrors⟩ := sound.mirrors
  refine ⟨calling_mirrors place shelf rows mirrors index call, ?_⟩
  unfold Shelf.calling
  cases listed : shelf.handles[index]? with
  | none => exact sound.remembers
  | some handle =>
      have member := List.mem_of_getElem? listed
      obtain ⟨on, known⟩ := mirrors.held handle member
      have table := table_present place shelf rows mirrors handle member
      obtain ⟨next, served, _, _⟩ := handle.perform_served place on shelf.tree rows table call
      intro fits
      have earlier := sound.remembers fun made there =>
        fits made (List.mem_append_left _ there)
      exact remembered_snoc shelf.history earlier _ rows next call _ served mirrors.same
        fun made there => fits_limit shelf.limits _ known made.call (fits made there)

theorem act_sound (action : Action)
    (leads : ∀ settings, action = .opening settings → settings.LeadTo place) :
    Sound place (shelf.act action) := by
  cases action with
  | opening settings => exact opening_sound place shelf sound settings (leads settings rfl)
  | closing index => exact closing_sound place shelf sound index
  | calling index call => exact calling_sound place shelf sound index call

end Shared

section Runs

variable (place : Place) (tree : FileTree) (actions : List Action)

theorem start_sound (vacant : tableAt place tree = none ∨ tableAt place tree = some (some [])) :
    Sound place ⟨tree, [], [], []⟩ := by
  constructor
  case mirrors =>
    refine ⟨[], ?_, List.Pairwise.nil, fun _ => rfl, fun _ listed => nomatch listed⟩
    exact vacant.symm.imp_right fun absent => ⟨absent, rfl, rfl⟩
  case remembers =>
    intro _
    exact ⟨.empty, ⟨rfl, List.Pairwise.nil, fun _ => rfl⟩, rfl⟩

theorem run_sound (vacant : tableAt place tree = none ∨ tableAt place tree = some (some []))
    (leads : ∀ settings, .opening settings ∈ actions → settings.LeadTo place) :
    Sound place (Shelf.run tree actions) := by
  have sound := start_sound place tree vacant
  unfold Shelf.run
  generalize (⟨tree, [], [], []⟩ : Shelf) = shelf at sound
  induction actions generalizing shelf with
  | nil => exact sound
  | cons action rest ih =>
      have stepped := act_sound place shelf sound action fun settings same =>
        leads settings (same ▸ List.mem_cons_self)
      exact ih (fun settings listed => leads settings (List.mem_cons_of_mem _ listed)) _ stepped

end Runs

section Serving

/-- How an open store shows a map and takes changes of it, under its own limit. -/
structure Serves (map : String → Option String) (handle : Handle) (tree : FileTree) : Prop where
  lists : ∃ names, keys (handle.session tree) = .ok names ∧
    names.Pairwise (fun earlier later => Text.bytes earlier < Text.bytes later) ∧
    ∀ key, key ∈ names ↔ ∃ payload, map key = some payload
  sets : ∀ key payload, (handle.perform tree (.set key payload)).1 = .done ↔
    IsStoreKey key ∧ payload.utf8ByteSize ≤ handle.settings.maxPayload
  refuses : ∀ key payload, (handle.perform tree (.set key payload)).1 ≠ .done →
    ∃ message, (handle.perform tree (.set key payload)).1 = .failed (.rejected message)
  misses : ∀ key, IsStoreKey key → map key = none →
    (handle.perform tree (.get key)).1 = .found none
  gets : ∀ key payload, IsStoreKey key → map key = some payload →
    payload.utf8ByteSize ≤ handle.settings.maxPayload →
    (handle.perform tree (.get key)).1 = .found (some payload)
  withholds : ∀ key payload, IsStoreKey key → map key = some payload →
    handle.settings.maxPayload < payload.utf8ByteSize →
    ∃ message, (handle.perform tree (.get key)).1 = .failed (.rejected message)
  removes : ∀ key, IsStoreKey key → (handle.perform tree (.remove key)).1 = .done
  rejects : ∀ call : StoreCall, ¬ IsStoreKey call.key →
    ∃ message, (handle.perform tree call).1 = .failed (.rejected message)
  leaves : ∀ call, (handle.perform tree call).1 ≠ .done → (handle.perform tree call).2 = tree

variable (handle : Handle) (place : Place) (on : handle.On place) (tree : FileTree) (rows : Rows)
  (table : tableAt place tree = some (some rows)) (sorted : Keyed.Sorted rows)
  (map : String → Option String)
  (same : ∀ key, (Keyed.find? key rows).map Database.Row.payload = map key)

include on table

theorem keys_listed : keys (handle.session tree) = .ok (Keyed.keys rows) := by
  have held := (handle.session_table place on tree rows table).1
  rw [keys, Database.keys?, held]
  rfl

include same

theorem get_shows (key : String) (proper : IsStoreKey key) :
    map key = none ∧ (handle.perform tree (.get key)).1 = .found none ∨
      ∃ payload, map key = some payload ∧
        (payload.utf8ByteSize ≤ handle.settings.maxPayload ∧
            (handle.perform tree (.get key)).1 = .found (some payload) ∨
          handle.settings.maxPayload < payload.utf8ByteSize ∧
            ∃ message, (handle.perform tree (.get key)).1 = .failed (.rejected message)) := by
  obtain ⟨next, outcome, _⟩ := handle.perform_served place on tree rows table (.get key)
  rw [← same]
  rcases served_get _ rows next _ key proper outcome with ⟨absent, answer⟩ | ⟨row, held, shown⟩
  · rw [absent]
    exact Or.inl ⟨rfl, answer⟩
  · rw [held]
    exact Or.inr ⟨row.payload, rfl, shown⟩

include sorted

theorem table_serves : Serves map handle tree := by
  have served (call : StoreCall) := handle.perform_served place on tree rows table call
  have shows := get_shows handle place on tree rows table map same
  constructor
  case lists =>
    refine ⟨Keyed.keys rows, keys_listed handle place on tree rows table, ?_, fun key => ?_⟩
    · exact ((Keyed.sorted_iff_keys rows).mp sorted).imp (Text.bytes_lt _ _)
    · rw [Keyed.mem_keys, ← same]
      cases Keyed.find? key rows <;> simp
  case sets =>
    intro key payload
    obtain ⟨next, outcome, _⟩ := served (.set key payload)
    rcases served_set _ rows next _ key payload outcome with ⟨taken, done⟩ | ⟨unfit, _, failed⟩
    · simp [taken, done]
    · rw [failed]
      simpa using unfit
  case refuses =>
    intro key payload undone
    obtain ⟨next, outcome, _⟩ := served (.set key payload)
    rcases served_set _ rows next _ key payload outcome with ⟨_, done⟩ | ⟨_, failed⟩
    · exact absurd done undone
    · exact failed
  case misses =>
    intro key proper absent
    rcases shows key proper with ⟨_, answer⟩ | ⟨payload, there, _⟩
    · exact answer
    · cases absent.symm.trans there
  case gets =>
    intro key payload proper there fits
    rcases shows key proper with ⟨absent, _⟩ | ⟨stored, held, shown⟩
    · cases absent.symm.trans there
    · obtain rfl := Option.some.inj (held.symm.trans there)
      rcases shown with ⟨_, answer⟩ | ⟨large, _⟩
      · exact answer
      · exact absurd fits (Nat.not_le.mpr large)
  case withholds =>
    intro key payload proper there large
    rcases shows key proper with ⟨absent, _⟩ | ⟨stored, held, shown⟩
    · cases absent.symm.trans there
    · obtain rfl := Option.some.inj (held.symm.trans there)
      rcases shown with ⟨fits, _⟩ | ⟨_, failed⟩
      · exact absurd fits (Nat.not_le.mpr large)
      · exact failed
  case removes =>
    intro key proper
    obtain ⟨next, outcome, _⟩ := served (.remove key)
    exact served_remove _ rows next _ key proper outcome
  case rejects =>
    intro call improper
    obtain ⟨next, outcome, _⟩ := served call
    exact served_improper _ rows next _ call improper outcome
  case leaves =>
    intro call undone
    obtain ⟨next, _, _, unchanged⟩ := served call
    exact unchanged undone

end Serving

/-- After every run each open store serves the map that the successful changes have left. Calls that
every store takes are answered throughout as by one store in memory. -/
theorem shared_file_refines (place : Place) (tree : FileTree) (actions : List Action)
    (vacant : tableAt place tree = none ∨ tableAt place tree = some (some []))
    (leads : ∀ settings, .opening settings ∈ actions → settings.LeadTo place) :
    (∀ handle ∈ (Shelf.run tree actions).handles,
        Serves (replayed (Shelf.run tree actions).history) handle (Shelf.run tree actions).tree) ∧
      ((∀ made ∈ (Shelf.run tree actions).history,
          Fits (Shelf.run tree actions).limits made.call) →
        (Shelf.run tree actions).history.map Made.answer =
          (StoreCall.performAll MemoryStore.operations .empty
            ((Shelf.run tree actions).history.map Made.call)).1) := by
  have sound := run_sound place tree actions vacant leads
  generalize Shelf.run tree actions = shelf at sound ⊢
  obtain ⟨rows, mirrors⟩ := sound.mirrors
  constructor
  · intro handle member
    exact table_serves handle place (mirrors.held handle member).1 shelf.tree rows
      (table_present place shelf rows mirrors handle member) mirrors.sorted _ mirrors.same
  · intro fits
    obtain ⟨store, _, performed⟩ := sound.remembers fits
    rw [performed]

section Letters

def letterPlace : Place := FileTree.working ++ ["s.db"]

def roomy : Settings := { Settings.standard "s.db" with maxPayload := 4 }

def narrow : Settings := { Settings.standard "./s.db" with journalMode := .delete, maxPayload := 2 }

/-- The second store can neither write three letters nor read the four of the first one. -/
def letterActions : List Action :=
  [.opening roomy, .opening narrow, .calling 0 (.set "b" "four"), .calling 1 (.set "a" "two"),
    .calling 1 (.get "b"), .calling 1 (.set "a" "2"), .calling 0 (.get "a"), .closing 0]

def fewActions : List Action :=
  [.opening narrow, .calling 0 (.set "a" "1"), .opening roomy, .calling 1 (.get "a"),
    .calling 1 (.remove "a"), .calling 0 (.get "a")]

theorem letters_lead (settings : Settings) (either : settings = roomy ∨ settings = narrow) :
    settings.LeadTo letterPlace := by
  rcases either with rfl | rfl
  · exact ⟨locatePath "s.db", "s.db", rfl, rfl, rfl, by decide +kernel⟩
  · exact ⟨locatePath "./s.db", "./s.db", rfl, rfl, rfl, by decide +kernel⟩

theorem letter_proper (key : String) (listed : key ∈ ["a", "b"]) : IsStoreKey key := by
  have each : ∀ key ∈ ["a", "b"], 1 ≤ key.utf8ByteSize ∧ key.utf8ByteSize ≤ 512 := by
    decide +kernel
  exact each key listed

theorem few_fit (made : Made) (listed : made ∈ (Shelf.run .start fewActions).history) :
    Fits (Shelf.run .start fewActions).limits made.call := by
  have limits : (Shelf.run .start fewActions).limits = [4, 2] := by decide +kernel
  have calls : (Shelf.run .start fewActions).history.map Made.call =
      [.set "a" "1", .get "a", .remove "a", .get "a"] := by decide +kernel
  have member := List.mem_map_of_mem listed (f := Made.call)
  rw [calls] at member
  have key : made.call.key = "a" := by
    have each : ∀ call ∈ [StoreCall.set "a" "1", .get "a", .remove "a", .get "a"],
        call.key = "a" := by decide
    exact each _ member
  rw [limits]
  refine ⟨key ▸ letter_proper "a" (by simp), fun name payload same limit known => ?_⟩
  have parts : name = "a" ∧ payload = "1" := by
    rw [same] at member
    simpa using member
  obtain rfl := parts.2
  have each : ∀ limit ∈ [4, 2], "1".utf8ByteSize ≤ limit := by decide +kernel
  exact each limit known

theorem letters_shared :
    (∃ handle ∈ (Shelf.run .start letterActions).handles, handle.settings = narrow ∧
      (handle.perform (Shelf.run .start letterActions).tree (.get "a")).1 = .found (some "2") ∧
      ∃ message, (handle.perform (Shelf.run .start letterActions).tree (.get "b")).1 =
        .failed (.rejected message)) ∧
      (Shelf.run .start fewActions).history.map Made.answer =
        (StoreCall.performAll MemoryStore.operations .empty
          ((Shelf.run .start fewActions).history.map Made.call)).1 := by
  constructor
  · obtain ⟨serves, _⟩ := shared_file_refines letterPlace .start letterActions (Or.inl rfl)
      fun settings listed => letters_lead settings (by simpa [letterActions] using listed)
    have left : (Shelf.run .start letterActions).handles.map Handle.settings = [narrow] := by
      decide +kernel
    have stored : replayed (Shelf.run .start letterActions).history "a" = some "2" ∧
        replayed (Shelf.run .start letterActions).history "b" = some "four" := by decide +kernel
    obtain ⟨handle, rest, same, settled, _⟩ := List.map_eq_cons_iff.mp left
    have member : handle ∈ (Shelf.run .start letterActions).handles := by simp [same]
    have served := serves handle member
    refine ⟨handle, member, settled, ?_, ?_⟩
    · exact served.gets "a" "2" (letter_proper "a" (by simp)) stored.1 (by rw [settled]; decide)
    · exact served.withholds "b" "four" (letter_proper "b" (by simp)) stored.2
        (by rw [settled]; decide)
  · have leads (settings : Settings) (listed : .opening settings ∈ fewActions) :=
      letters_lead settings (by simpa [fewActions, or_comm] using listed)
    exact (shared_file_refines letterPlace .start fewActions (Or.inl rfl) leads).2 few_fit

end Letters

end FormEngine.DurableStore
