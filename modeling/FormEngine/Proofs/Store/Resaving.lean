import FormEngine.Proofs.Json.Size
import FormEngine.Proofs.Store.Persistence

/-!
Saving again what was loaded. A payload may have been written by anybody, with blanks, escapes,
members in any order and members that later ones replace. What is loaded from it is printed no
longer than it was written, so it is within every limit that the payload was within.
-/

namespace FormEngine

namespace Persistence

variable (limit : Nat) (payload : String) (values : FormValues)
  (loaded : ofPayload? limit payload = some values)

include loaded

/-- A tree of values has no numbers, so none of them can be printed longer than it was written. -/
theorem loaded_size : values.toJson.byteSize ≤ payload.utf8ByteSize := by
  obtain ⟨_, read, _⟩ := (of_payload_iff limit payload values).mp loaded
  obtain ⟨tree, spelled, settled⟩ := Json.limited_spelled payload _ values.toJson read
  have exact : tree.settled.Exact := settled ▸ FormValue.written_exact (.group values)
  have size := Json.spelled_size tree payload spelled exact
  rwa [settled] at size

theorem loaded_ordered : values.Ordered := by
  obtain ⟨_, read, _⟩ := (of_payload_iff limit payload values).mp loaded
  obtain ⟨tree, _, settled⟩ := Json.limited_spelled payload _ values.toJson read
  exact (FormValues.json_ordered_iff values).mp (settled ▸ Json.settled_ordered tree)

end Persistence

namespace MemoryStore

open Persistence (persist load)

variable (store : MemoryStore) (key : String) (limit : Nat)

/-- Whatever is loaded can be saved again under the same limit, under its own key or another one, and
is loaded from there as it was. -/
theorem loaded_saved_again (payload : String) (values : FormValues)
    (held : Keyed.find? key store.entries = some payload)
    (loaded : load operations store key limit = some values) :
    values.toJson.byteSize ≤ payload.utf8ByteSize ∧
      ∀ target, ∃ next, persist operations store target values.toJson limit = .ok next ∧
        load operations next target limit = some values := by
  obtain ⟨working, text, found, read⟩ := (load_iff store key limit values).mp loaded
  obtain rfl : text = payload := Option.some.inj (found.symm.trans held)
  obtain ⟨fits, _, shape⟩ := (Persistence.of_payload_iff limit text values).mp read
  have size := Persistence.loaded_size limit text values read
  have ordered := Persistence.loaded_ordered limit text values read
  refine ⟨size, fun target => ?_⟩
  have accepted := (set_ok_iff store _ target values.toJson.compact).mpr ⟨working, rfl⟩
  have saved := (Persistence.persist_ok_iff operations store _ target values.toJson limit).mpr
    ⟨shape, Nat.le_trans size fits, accepted⟩
  exact ⟨_, saved, (persisted store _ target values limit ordered saved).2.1⟩

/-- Written by hand: with blanks, escapes that need not be, and a member that is given twice. -/
def handwritten : MemoryStore :=
  ⟨[("k", " \x7b \"b\" : 1e9 , \"a\" : \"\\u0041\\/\", \"b\" : true \x7d ")], none⟩

theorem handwritten_saved_again :
    load operations handwritten "k" 46 = some [("a", .text "A/"), ("b", .flag true)] ∧
      ∃ next, persist operations handwritten "k" (.obj [("a", .str "A/"), ("b", .bool true)]) 46 =
          .ok next ∧
        load operations next "k" 46 = some [("a", .text "A/"), ("b", .flag true)] := by
  have loaded : load operations handwritten "k" 46 =
      some [("a", .text "A/"), ("b", .flag true)] := by decide +kernel
  exact ⟨loaded, (loaded_saved_again handwritten "k" 46 _ _ rfl loaded).2 "k"⟩

end MemoryStore

end FormEngine
