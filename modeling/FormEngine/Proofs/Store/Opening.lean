import FormEngine.Store.Durable

/-!
Why a store in a database cannot be opened. Its settings are judged before anything else, by
themselves; what is refused later is refused for what is in the file system or by the engine.
-/

namespace FormEngine.DurableStore

/-- What settings can be refused for without a look at the file system. -/
def Error.OfSettings (error : Error) : Prop :=
  error ∈ [.zeroLimit, .emptyPath, .longPath, .longStep]

instance (error : Error) : Decidable error.OfSettings :=
  inferInstanceAs (Decidable (error ∈ _))

section Settings

theorem settings_error (settings : Settings) (error : Error)
    (refused : settings.check = .error error) : error.OfSettings := by
  unfold Settings.check checkPath at refused
  split at refused
  · cases refused
    decide
  · split at refused
    · cases refused
      decide
    · split at refused
      · cases refused
        decide
      · split at refused
        · cases refused
          decide
        · cases refused

theorem settings_checked_iff (settings : Settings) :
    settings.check = .ok () ↔
      settings.maxPayload ≠ 0 ∧ settings.path ≠ "" ∧
        settings.path.utf8ByteSize ≤ FilePath.maxBytes ∧
        FilePath.stepsFit settings.path = true := by
  unfold Settings.check checkPath
  simp only [String.isEmpty_iff]
  constructor
  · intro passed
    split at passed
    · cases passed
    · split at passed
      · cases passed
      · split at passed
        · cases passed
        · split at passed
          · cases passed
          · rename_i positive filled short fits
            exact ⟨positive, filled, Nat.not_lt.mp short, by simpa using fits⟩
  · rintro ⟨positive, filled, short, fits⟩
    simp [positive, filled, Nat.not_lt.mpr short, fits]

end Settings

section Engine

theorem address_error (text : List Char) (error : Error)
    (refused : readAddress text = .error error) : error.kind = .engine := by
  unfold readAddress at refused
  split at refused
  · simp only at refused
    split at refused
    · cases refused
    · cases refused
      rfl
  · cases refused

theorem request_error (request : Request) (parameter : String × String) (error : Error)
    (refused : request.read parameter = .error error) : error.kind = .engine := by
  unfold Request.read at refused
  split at refused
  · cases refused
  · cases refused
  · cases refused
  · cases refused
    rfl
  · split at refused
    · cases refused
      rfl
    · split at refused
      · cases refused
      · cases refused
        rfl
  · cases refused

theorem requests_error (parameters : List (String × String)) (request : Request) (error : Error)
    (refused : parameters.foldlM Request.read request = .error error) : error.kind = .engine := by
  induction parameters generalizing request with
  | nil => cases refused
  | cons parameter rest ih =>
      rw [List.foldlM_cons] at refused
      cases read : request.read parameter with
      | error fault =>
          rw [read] at refused
          cases refused
          exact request_error request parameter error read
      | ok next =>
          rw [read] at refused
          exact ih next refused

theorem lock_system_error (request : Request) (error : Error)
    (refused : request.lockSystem = .error error) : error.kind = .engine := by
  unfold Request.lockSystem at refused
  split at refused
  · cases refused
  · split at refused
    · cases refused
    · cases refused
      rfl

theorem locate_address_error (address : Address) (error : Error)
    (refused : locateAddress address = .error error) : error.kind = .engine := by
  unfold locateAddress at refused
  cases asked : address.parameters.foldlM Request.read .standard with
  | error fault =>
      rw [asked] at refused
      cases refused
      exact requests_error _ _ error asked
  | ok request =>
      rw [asked] at refused
      change (request.lockSystem >>= _) = _ at refused
      cases locked : request.lockSystem with
      | error fault =>
          rw [locked] at refused
          cases refused
          exact lock_system_error request error locked
      | ok system =>
          rw [locked] at refused
          cases refused

theorem locate_error (name : String) (error : Error) (refused : locate name = .error error) :
    error.kind = .engine := by
  unfold locate at refused
  simp only at refused
  split at refused
  · cases refused
    rfl
  · split at refused
    · split at refused
      · exact locate_address_error _ error refused
      · cases refused
        exact address_error _ error ‹_›
    · cases refused

theorem reach_error (location : Location) (name path : String) (tree : FileTree) (error : Error)
    (refused : reach location name path tree = .error error) : error.kind = .engine := by
  unfold reach at refused
  split at refused
  · cases refused
    rfl
  · cases refused
    rfl
  · split at refused
    · cases refused
      rfl
    · split at refused
      · cases refused
      · split at refused <;> cases refused <;> rfl
      · split at refused <;> cases refused
        rfl

theorem database_error (place : Place) (tree : FileTree) (error : Error)
    (refused : databaseAt place tree = .error error) : error.kind = .engine := by
  unfold databaseAt at refused
  split at refused
  · cases refused
  · split at refused <;> cases refused
    rfl
  · cases refused
    rfl

theorem read_error (location : Location) (place : Place) (tree : FileTree) (error : Error)
    (refused : read location place tree = .error error) : error.kind = .engine := by
  unfold read at refused
  split at refused
  · exact database_error place tree error refused
  · split at refused
    · cases refused
      rfl
    · split at refused
      · split at refused <;> cases refused
        rfl
      · exact database_error place tree error refused

theorem connect_error (location : Location) (name path : String) (tree : FileTree) (error : Error)
    (refused : (connect location name path tree).2 = .error error) : error.kind = .engine := by
  unfold connect at refused
  split at refused
  · cases refused
    exact reach_error location name path tree error ‹_›
  · split at refused
    · cases refused
      exact read_error _ _ _ error ‹_›
    · cases refused

theorem change_journal_error (location : Location) (fits : Bool) (wanted current : JournalMode)
    (error : Error) (refused : changeJournal location fits wanted current = .error error) :
    error.kind = .engine := by
  unfold changeJournal at refused
  split at refused
  · split at refused
    · cases refused
    · split at refused
      · cases refused
        rfl
      · split at refused <;> cases refused
        rfl
  · split at refused
    · cases refused
    · split at refused <;> cases refused
      rfl
  · cases refused
  · cases refused

theorem set_up_error (location : Location) (fits : Bool) (journal : JournalMode)
    (held : Option Database) (error : Error)
    (refused : setUp location fits journal held = .error error) : error.kind ≠ .invalid := by
  unfold setUp at refused
  split at refused
  · split at refused
    · cases refused
      decide
    · split at refused <;> cases refused
      decide
  · split at refused <;> cases refused
    exact ErrorKind.noConfusion

theorem open_file_error (settings : Settings) (location : Location) (path : String)
    (tree : FileTree) (error : Error)
    (refused : (openFile settings location path tree).2 = .error error) :
    error.kind ≠ .invalid := by
  have engine (fault : Error) (kind : fault.kind = .engine) : fault.kind ≠ .invalid := by
    rw [kind]
    decide
  unfold openFile at refused
  split at refused
  · rename_i fault connected
    cases refused
    exact engine error (connect_error location settings.path path tree error (by rw [connected]))
  · simp only at refused
    split at refused
    · cases refused
      exact engine error (change_journal_error _ _ _ _ error ‹_›)
    · split at refused
      · cases refused
        exact set_up_error _ _ _ _ error ‹_›
      · cases refused

theorem open_location_error (settings : Settings) (location : Location) (tree : FileTree)
    (error : Error) (refused : (openLocation settings location tree).2 = .error error) :
    error.kind ≠ .invalid := by
  unfold openLocation at refused
  split at refused
  · exact open_file_error settings location _ tree error refused
  · cases made : setUp location true .delete none with
    | ok database => simp [made, Except.map] at refused
    | error fault =>
        obtain rfl : fault = error := by simpa [made, Except.map] using refused
        exact set_up_error location true .delete none fault made

end Engine

theorem of_settings_kind (error : Error) (own : error.OfSettings) : error.kind = .invalid := by
  have each : ∀ error ∈ [Error.zeroLimit, .emptyPath, .longPath, .longStep],
      error.kind = .invalid := by decide
  exact each error own

/-- Settings are refused exactly when they do not pass their own check, whatever files there are. -/
theorem open_refused_iff (settings : Settings) (tree : FileTree) :
    (∃ error, (openStore settings tree).2 = .error error ∧ error.OfSettings) ↔
      settings.check ≠ .ok () := by
  unfold openStore
  cases checked : settings.check with
  | error fault =>
      simp only [Except.error.injEq, exists_eq_left', ne_eq, reduceCtorEq, not_false_eq_true,
        iff_true]
      exact settings_error settings fault checked
  | ok _ =>
      simp only [ne_eq, not_true_eq_false, iff_false, not_exists, not_and]
      intro error refused own
      have invalid := of_settings_kind error own
      split at refused
      · cases refused
        exact absurd own (by decide)
      · split at refused
        · cases refused
          exact absurd own (by decide)
        · split at refused
          · cases refused
            exact absurd own (by decide)
          · split at refused
            · rename_i located
              cases refused
              rw [locate_error _ error located] at invalid
              cases invalid
            · exact open_location_error settings _ _ error refused invalid

end FormEngine.DurableStore
