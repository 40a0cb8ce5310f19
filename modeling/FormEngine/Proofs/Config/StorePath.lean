import FormEngine.Config.Load
import FormEngine.Proofs.Config.Checked
import FormEngine.Proofs.Files.Path
import FormEngine.Proofs.Store.Opening

/-!
Whether the store of a checked configuration takes its settings. Both judge the path by the same
limits, but the configuration judges it without the blanks around it and the store is given it with
them. So a store refuses a checked configuration exactly when those blanks make the whole path, or
its first or its last piece, too long.
-/

namespace FormEngine.Config

/-- The settings are refused, and not for what is in the file system. -/
def Fault.OfSettings (fault : Fault) : Prop :=
  fault = .durableWithoutPath ∨ ∃ error, fault = .store error ∧ error.OfSettings

/-- The blanks around a path that is short enough without them make it too long. -/
def Outgrown (path : String) : Prop :=
  FilePath.maxBytes < path.utf8ByteSize ∨
    ¬ FilePath.PieceFits (FilePath.firstPiece path) ∨ ¬ FilePath.PieceFits (FilePath.lastPiece path)

section Refusals

variable (config : Config) (path : String) (tree : FileTree)

theorem trimmed_fits_iff (fits : FilePath.stepsFit (Text.trim path) = true) :
    FilePath.stepsFit path = true ↔
      FilePath.PieceFits (FilePath.firstPiece path) ∧
        FilePath.PieceFits (FilePath.lastPiece path) := by
  obtain ⟨front, back, parts, blankFront, blankBack⟩ := Text.trimmed_between path.toList
  apply FilePath.widened_fits_iff path front _ back parts
  · exact Text.blanks_hold_no_separator front blankFront
  · exact Text.blanks_hold_no_separator back blankBack
  · simpa [Text.trim] using (FilePath.steps_fit_iff (Text.trim path)).mp fits

theorem trimmed_empty (empty : path = "") : Text.trim path = "" := by
  subst empty
  rfl

theorem settings_refused_iff (saved : config.limits.maxSavedBytes ≠ 0)
    (passed : checkPath .valueStore path = .ok ()) :
    (config.storeSettings path).check ≠ .ok () ↔ Outgrown path := by
  obtain ⟨filled, _, fits⟩ := (path_ok_iff .valueStore path).mp passed
  have named : path ≠ "" := fun empty => filled (trimmed_empty path empty)
  rw [ne_eq, DurableStore.settings_checked_iff]
  simp only [storeSettings, trimmed_fits_iff path fits, Outgrown, ne_eq, saved, not_false_eq_true,
    named, true_and, Classical.not_and_iff_not_or_not, Nat.not_le]

theorem trimmed_settings_pass (saved : config.limits.maxSavedBytes ≠ 0)
    (passed : checkPath .valueStore path = .ok ()) :
    (config.storeSettings (Text.trim path)).check = .ok () := by
  obtain ⟨filled, short, fits⟩ := (path_ok_iff .valueStore path).mp passed
  exact (DurableStore.settings_checked_iff _).mpr ⟨saved, filled, short, fits⟩

theorem built_refused_iff (durable : config.valueStore.kind = .durable)
    (given : config.valueStore.path = some path) :
    (∃ fault, (config.buildStore tree).2 = .error (.invalid fault) ∧ fault.OfSettings) ↔
      (config.storeSettings path).check ≠ .ok () := by
  rw [← DurableStore.open_refused_iff (config.storeSettings path) tree]
  unfold buildStore
  simp only [durable, given]
  cases opened : DurableStore.openStore (config.storeSettings path) tree with
  | mk next outcome =>
      cases outcome with
      | ok home => simp
      | error error => simp [Fault.OfSettings]

end Refusals

/-- A checked configuration has a path and a limit for its store, and whatever files there are, the
store refuses them only for blanks around the path. Without those blanks it takes them. -/
theorem store_refused_iff_outgrown (config : Config) (checked : config.check = .ok ())
    (durable : config.valueStore.kind = .durable) :
    ∃ path, config.valueStore.path = some path ∧ path ≠ "" ∧
      0 < (config.storeSettings path).maxPayload ∧
      (∀ tree,
        (∃ fault, (config.buildStore tree).2 = .error (.invalid fault) ∧ fault.OfSettings) ↔
          Outgrown path) ∧
      (config.storeSettings (Text.trim path)).check = .ok () := by
  obtain ⟨limits, _, _, _, valueStore⟩ := (check_ok_iff config).mp checked
  obtain ⟨_, _, saved⟩ := (limits_ok_iff config.limits).mp limits
  obtain ⟨path, given, passed⟩ := (durable_ok_iff config.valueStore durable).mp valueStore
  have filled := ((path_ok_iff .valueStore path).mp passed).1
  refine ⟨path, given, ?_, ?_, ?_, ?_⟩
  · exact fun empty => filled (trimmed_empty path empty)
  · exact Nat.pos_of_ne_zero saved
  · intro tree
    rw [built_refused_iff config path tree durable given]
    exact settings_refused_iff config path saved passed
  · exact trimmed_settings_pass config path saved passed

section Blanks

/-- A name for a database in the file `store.db`, and blanks behind it that are a parameter without
meaning. They make the only step of the path too long. -/
def blankedChars : List Char := "file:store.db?".toList ++ List.replicate 250 ' '

def blankedPath : String := String.ofList blankedChars

def blankedConfig : Config :=
  { Config.standard with
    valueStore := { ValueStoreSection.standard with kind := .durable, path := some blankedPath } }

theorem blanked_bytes (name : String) (count : Nat) :
    (String.ofList (name.toList ++ List.replicate count ' ')).utf8ByteSize =
      name.utf8ByteSize + count := by
  have blanks : (String.ofList (List.replicate count ' ')).utf8ByteSize = count := by
    induction count with
    | zero => rfl
    | succ count ih =>
        have one : Char.utf8Size ' ' = 1 := rfl
        rw [List.replicate_succ, String.ofList_cons, String.utf8ByteSize_append, ih,
          String.utf8ByteSize_singleton, one, Nat.add_comm]
  rw [String.ofList_append, String.ofList_toList, String.utf8ByteSize_append, blanks]

theorem blanked_trimmed : Text.trim blankedPath = "file:store.db?" := by
  have short : Text.trimChars blankedChars = "file:store.db?".toList := by decide +kernel
  rw [Text.trim, blankedPath, String.toList_ofList, short, String.ofList_toList]

theorem blanked_checked : blankedConfig.check = .ok () := by
  have passed : checkPath .valueStore blankedPath = .ok () := by
    refine (path_ok_iff .valueStore blankedPath).mpr ?_
    rw [blanked_trimmed]
    decide +kernel
  have valueStore : blankedConfig.valueStore.check = .ok () :=
    (durable_ok_iff blankedConfig.valueStore rfl).mpr ⟨blankedPath, rfl, passed⟩
  exact (check_ok_iff blankedConfig).mpr ⟨rfl, rfl, rfl, rfl, valueStore⟩

theorem blanked_path_refused :
    blankedConfig.check = .ok () ∧
      ∃ fault, (blankedConfig.buildStore .start).2 = .error (.invalid fault) ∧
        fault.OfSettings := by
  obtain ⟨path, given, _, _, refused, _⟩ :=
    store_refused_iff_outgrown blankedConfig blanked_checked rfl
  obtain rfl : blankedPath = path := Option.some.inj given
  have absent : '/' ∉ blankedPath.toList := by
    rw [blankedPath, String.toList_ofList]
    decide +kernel
  have size : blankedPath.utf8ByteSize = 264 := blanked_bytes "file:store.db?" 250
  have long : ¬ FilePath.PieceFits (FilePath.lastPiece blankedPath) := by
    unfold FilePath.PieceFits
    rw [FilePath.last_piece_whole blankedPath absent, String.ofList_toList, size]
    decide
  exact ⟨blanked_checked, (refused .start).mpr (Or.inr (Or.inr long))⟩

end Blanks

end FormEngine.Config
