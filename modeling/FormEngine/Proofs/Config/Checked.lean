import FormEngine.Config.Check

/-!
What a checked configuration has passed: the checks of all its sections.
-/

namespace FormEngine.Config

variable (config : Config)

theorem check_ok_iff :
    config.check = .ok () ↔
      config.limits.check = .ok () ∧ config.integrations.check = .ok () ∧
        config.autoSave.check = .ok () ∧ config.diagnostics.check = .ok () ∧
        config.valueStore.check = .ok () := by
  unfold check
  cases config.limits.check with
  | error fault => simp [bind, Except.bind]
  | ok _ =>
      cases config.integrations.check with
      | error fault => simp [bind, Except.bind]
      | ok _ =>
          cases config.autoSave.check with
          | error fault => simp [bind, Except.bind]
          | ok _ =>
              cases config.diagnostics.check with
              | error fault => simp [bind, Except.bind]
              | ok _ => simp [bind, Except.bind]

theorem limits_ok_iff (limits : LimitSection) :
    limits.check = .ok () ↔
      (limits.maxSchemaBytes ≠ 0 ∧ limits.maxSchemaBytes ≤ schemaBytesCeiling) ∧
        (limits.maxGroupDepth ≠ 0 ∧ limits.maxGroupDepth ≤ groupDepthCeiling) ∧
        limits.maxSavedBytes ≠ 0 := by
  unfold LimitSection.check
  constructor
  · intro passed
    split at passed
    · cases passed
    · split at passed
      · cases passed
      · split at passed
        · cases passed
        · omega
  · rintro ⟨⟨someBytes, bytes⟩, ⟨someDepth, depth⟩, saved⟩
    simp [someBytes, someDepth, saved, Nat.not_lt.mpr bytes, Nat.not_lt.mpr depth]

theorem path_ok_iff (field : PathField) (path : String) :
    checkPath field path = .ok () ↔
      Text.trim path ≠ "" ∧ (Text.trim path).utf8ByteSize ≤ FilePath.maxBytes ∧
        FilePath.stepsFit (Text.trim path) = true := by
  unfold checkPath
  simp only [String.isEmpty_iff]
  constructor
  · intro passed
    split at passed
    · cases passed
    · split at passed
      · cases passed
      · split at passed
        · cases passed
        · rename_i filled short fits
          exact ⟨filled, Nat.not_lt.mp short, by simpa using fits⟩
  · rintro ⟨filled, short, fits⟩
    simp [filled, Nat.not_lt.mpr short, fits]

theorem durable_ok_iff (valueStore : ValueStoreSection) (durable : valueStore.kind = .durable) :
    valueStore.check = .ok () ↔
      ∃ path, valueStore.path = some path ∧ checkPath .valueStore path = .ok () := by
  unfold ValueStoreSection.check
  rw [durable]
  cases valueStore.path with
  | none => simp
  | some path => simp

end FormEngine.Config
