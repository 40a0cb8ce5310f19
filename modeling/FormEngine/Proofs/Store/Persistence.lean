import FormEngine.Proofs.Values.Encoding
import FormEngine.Store.Persistence

/-!
Saving values and loading them again. Values are saved when they have the shape, their compact text
is within the limit and the store takes it; under the same limit they are loaded as they were.
-/

namespace FormEngine

namespace Persistence

theorem persist_ok_iff {Store : Type} (operations : StoreOperations Store) (store next : Store)
    (key : String) (values : Json) (limit : Nat) :
    persist operations store key values limit = .ok next ↔
      FormValues.hasShape values = true ∧ values.byteSize ≤ limit ∧
        operations.set store key values.compact = .ok next := by
  unfold persist
  cases FormValues.hasShape values with
  | false => simp
  | true =>
      by_cases fits : values.byteSize ≤ limit
      · simp only [Bool.not_true, Bool.false_eq_true, ↓reduceIte, Nat.not_lt.mpr fits, fits,
          true_and]
        cases operations.set store key values.compact <;> simp
      · simp [Nat.not_le.mp fits, fits]

section Refusals

variable {Store : Type} (operations : StoreOperations Store) (store : Store) (key : String)
  (values : Json) (limit : Nat)

/-- Nothing else is refused for its shape. -/
theorem persist_shape_iff :
    persist operations store key values limit = .error .invalidShape ↔
      FormValues.hasShape values = false := by
  unfold persist
  cases shaped : FormValues.hasShape values with
  | false => simp
  | true =>
      simp only [Bool.not_true, Bool.false_eq_true, ↓reduceIte, Bool.true_eq_false, iff_false]
      split
      · simp
      · split <;> simp

/-- What is refused for its size tells the limit and the size. -/
theorem persist_size_iff (bound size : Nat) :
    persist operations store key values limit = .error (.tooLarge bound size) ↔
      FormValues.hasShape values = true ∧ limit < values.byteSize ∧ bound = limit ∧
        size = values.byteSize := by
  unfold persist
  cases FormValues.hasShape values with
  | false => simp
  | true =>
      simp only [Bool.not_true, Bool.false_eq_true, ↓reduceIte, true_and]
      split
      · rename_i large
        simp [large, eq_comm]
      · rename_i fits
        simp only [fits, false_and, iff_false]
        split <;> simp

end Refusals

section Payloads

theorem of_payload_iff (limit : Nat) (payload : String) (values : FormValues) :
    ofPayload? limit payload = some values ↔
      payload.utf8ByteSize ≤ limit ∧
        Json.readLimited (some (maxNesting - 1)) payload = .ok values.toJson ∧
        FormValues.hasShape values.toJson = true := by
  unfold ofPayload?
  by_cases fits : payload.utf8ByteSize ≤ limit
  · rw [if_neg (Nat.not_lt.mpr fits)]
    cases read : Json.readLimited (some (maxNesting - 1)) payload with
    | error fault => simp
    | ok document =>
        dsimp only
        by_cases shape : FormValues.hasShape document = true
        · rw [if_pos shape, FormValues.read_shape values document shape]
          constructor
          · rintro rfl
            exact ⟨fits, rfl, shape⟩
          · rintro ⟨_, same, _⟩
            exact (Except.ok.inj same).symm
        · rw [if_neg shape]
          constructor
          · intro absent
            simp at absent
          · rintro ⟨_, same, shaped⟩
            exact absurd (Except.ok.inj same ▸ shaped) shape
  · rw [if_pos (Nat.not_le.mp fits)]
    simp [fits]

variable (document : Json) (shape : FormValues.hasShape document = true)
  (ordered : document.Ordered)

include shape ordered

/-- What is saved as compact text is loaded under every limit that has room for it. -/
theorem payload_loaded (limit : Nat) (values : FormValues) :
    ofPayload? limit document.compact = some values ↔
      document.byteSize ≤ limit ∧ values.toJson = document := by
  obtain ⟨written, rfl⟩ := FormValues.shape_written document shape
  have nested := (FormValues.has_shape_to_json written).mp shape
  have room : FormValue.nestingEntries written < maxNesting - 1 := by
    simp only [maxNesting, FormValues.maxNesting] at nested ⊢
    omega
  have sorted := (FormValues.json_ordered_iff written).mp ordered
  have read := FormValues.compact_read_back written _ sorted room
  rw [of_payload_iff, read]
  constructor
  · rintro ⟨fits, same, _⟩
    exact ⟨fits, (Except.ok.inj same).symm⟩
  · rintro ⟨fits, same⟩
    rw [same]
    exact ⟨fits, rfl, shape⟩

end Payloads

end Persistence

namespace MemoryStore

variable (store next : MemoryStore) (key : String)

theorem set_ok_iff (payload : String) :
    operations.set store key payload = .ok next ↔ store.failing = none ∧
      { store with entries := Keyed.insert key payload store.entries } = next := by
  obtain ⟨entries, failing⟩ := store
  cases failing with
  | none => simp [operations, access]
  | some failure => simp [operations, access]

theorem load_iff (limit : Nat) (values : FormValues) :
    Persistence.load operations store key limit = some values ↔ store.failing = none ∧
      ∃ payload, Keyed.find? key store.entries = some payload ∧
        Persistence.ofPayload? limit payload = some values := by
  obtain ⟨entries, failing⟩ := store
  cases failing with
  | some failure => simp [Persistence.load, operations, access]
  | none =>
      cases found : Keyed.find? key entries with
      | none => simp [Persistence.load, operations, access, found]
      | some payload => simp [Persistence.load, operations, access, found]

/-- What is saved is there, is loaded again, and changes nothing under other keys. -/
theorem persisted (values : FormValues) (limit : Nat) (ordered : values.Ordered)
    (saved : Persistence.persist operations store key values.toJson limit = .ok next) :
    Keyed.find? key next.entries = some values.toJson.compact ∧
      Persistence.load operations next key limit = some values ∧
      ∀ other, other ≠ key → Keyed.find? other next.entries = Keyed.find? other store.entries := by
  obtain ⟨shaped, fits, accepted⟩ := (Persistence.persist_ok_iff _ _ _ _ _ _).mp saved
  obtain ⟨working, rfl⟩ := (set_ok_iff store next key _).mp accepted
  have found : Keyed.find? key (Keyed.insert key values.toJson.compact store.entries) =
      some values.toJson.compact := by
    rw [Keyed.find_insert, if_pos rfl]
  refine ⟨found, ?_, ?_⟩
  · refine (load_iff _ key limit values).mpr ⟨working, _, found, ?_⟩
    exact (Persistence.payload_loaded _ shaped ((FormValues.json_ordered_iff values).mpr ordered) limit
      values).mpr ⟨fits, rfl⟩
  · intro other different
    rw [Keyed.find_insert, if_neg different]

end MemoryStore

end FormEngine
