import FormEngine.Proofs.Json.Parsing
import FormEngine.Proofs.Json.Within
import FormEngine.Schema.Validation

/-!
Documents that come as text, whatever their nesting. A text that spells a tree is judged by its
brackets first and by the value it stands for otherwise, and is never called malformed. A text that
spells none is malformed, unless its brackets alone are too deep.
-/

namespace FormEngine.SchemaLimits

variable (limits : SchemaLimits)

/-- A document that has been read is not called unreadable later on. -/
theorem read_fault_kind (value : Json) (fault : SchemaFault)
    (verdict : limits.validateRead value = .error fault) : fault.kind ≠ .malformedInput := by
  unfold validateRead at verdict
  split at verdict
  · cases verdict
    simp [SchemaFault.kind]
  · split at verdict
    · cases verdict
      simp [SchemaFault.kind]
    · split at verdict
      · cases verdict
        simp [SchemaFault.kind]
      · split at verdict
        · cases verdict
          simp [SchemaFault.kind]
        · simp at verdict

variable (text : String)

-- The reader has room for one bracket less than the line, and the scan stops at the line.
theorem readable_verdict (value : Json) (readable : Json.read? text = some value) :
    limits.validateText text =
      if limits.maxBytes < text.utf8ByteSize then .error (.oversized limits.maxBytes)
      else if Json.nestingReaches maxNesting text then .error (.tooDeep limits.maxGroupDepth)
      else limits.validateRead value := by
  by_cases large : limits.maxBytes < text.utf8ByteSize
  · simp [validateText, large]
  · rcases Json.read_limited_within (maxNesting - 1) text value readable with
      ⟨flat, read⟩ | ⟨deep, error, stopped⟩
    · have shallow : Json.nestingReaches maxNesting text = false := flat
      simp [validateText, large, read, shallow]
    · have reached : Json.nestingReaches maxNesting text = true := deep
      simp [validateText, large, stopped, reached]

theorem spelled_verdict (tree : Json) (spelled : Json.Spelled tree text)
    (small : text.utf8ByteSize ≤ limits.maxBytes) :
    limits.validateText text =
      if maxNesting ≤ tree.nesting then .error (.tooDeep limits.maxGroupDepth)
      else limits.validateRead tree.settled := by
  have readable := Json.spelled_read text tree spelled
  have scanned := Json.spelled_scan text tree spelled maxNesting (by decide)
  simp [readable_verdict limits text tree.settled readable, Nat.not_lt.mpr small, scanned]

/-- A reader that stops at a limit finds no value in a text that spells none. -/
theorem unreadable_limited (unreadable : Json.read? text = none) (room : Option Nat) :
    ∃ error, Json.readLimited room text = .error error := by
  cases read : Json.readLimited room text with
  | error error => exact ⟨error, rfl⟩
  | ok value =>
      obtain ⟨tree, spelled, _⟩ := Json.limited_spelled text room value read
      simp [Json.spelled_read text tree spelled] at unreadable

theorem unreadable_verdict (unreadable : Json.read? text = none)
    (small : text.utf8ByteSize ≤ limits.maxBytes) :
    if Json.nestingReaches maxNesting text then
      limits.validateText text = .error (.tooDeep limits.maxGroupDepth)
    else
      ∃ error, limits.validateText text = .error (.unreadable error) := by
  obtain ⟨error, stopped⟩ := unreadable_limited text unreadable (some (maxNesting - 1))
  by_cases deep : Json.nestingReaches maxNesting text = true
  · simp [validateText, Nat.not_lt.mpr small, stopped, deep]
  · have verdict : limits.validateText text = .error (.unreadable error) := by
      simp [validateText, Nat.not_lt.mpr small, stopped, deep]
    simpa [deep] using ⟨error, verdict⟩

/-- A text that spells a tree is judged by the nesting of the tree and then by its value; a scan for
brackets sees just this nesting. Any other text is malformed, or its brackets are too deep. -/
theorem text_classified :
    (∀ value, Json.read? text = some value ↔
      ∃ tree, Json.Spelled tree text ∧ tree.settled = value) ∧
    (∀ tree, Json.Spelled tree text →
      (∀ limit, 1 ≤ limit → (Json.nestingReaches limit text = true ↔ limit ≤ tree.nesting)) ∧
      (text.utf8ByteSize ≤ limits.maxBytes →
        (∀ fault, limits.validateText text = .error fault → fault.kind ≠ .malformedInput) ∧
        (128 ≤ tree.nesting → ∃ fault, limits.validateText text = .error fault ∧
          fault.kind = .depthExceeded ∧ fault = .tooDeep limits.maxGroupDepth) ∧
        (tree.nesting ≤ 127 → limits.validateText text = limits.validateRead tree.settled))) ∧
    (Json.read? text = none → text.utf8ByteSize ≤ limits.maxBytes →
      ∃ fault, limits.validateText text = .error fault ∧
        if Json.nestingReaches 128 text then
          fault.kind = .depthExceeded ∧ fault = .tooDeep limits.maxGroupDepth
        else
          fault.kind = .malformedInput ∧ ∃ message, fault.parseError = some message ∧
            fault.errors = ["Invalid JSON: " ++ message]) := by
  refine ⟨Json.readable_iff text, fun tree spelled => ⟨?_, fun small => ?_⟩, ?_⟩
  · intro limit positive
    simp [Json.spelled_scan text tree spelled limit positive]
  · have verdict := spelled_verdict limits text tree spelled small
    refine ⟨?_, fun deep => ?_, fun shallow => ?_⟩
    · intro fault objected
      rw [verdict] at objected
      split at objected
      · cases objected
        simp [SchemaFault.kind]
      · exact read_fault_kind limits tree.settled fault objected
    · have reached : maxNesting ≤ tree.nesting := deep
      exact ⟨_, by simp [verdict, reached], rfl, rfl⟩
    · have below : ¬ maxNesting ≤ tree.nesting := Nat.not_le.mpr (Nat.lt_succ_of_le shallow)
      simp [verdict, below]
  · intro unreadable small
    have verdict := unreadable_verdict limits text unreadable small
    by_cases deep : Json.nestingReaches 128 text = true
    · have tooDeep : limits.validateText text = .error (.tooDeep limits.maxGroupDepth) := by
        simpa [maxNesting, deep] using verdict
      exact ⟨_, tooDeep, by simp [deep, SchemaFault.kind]⟩
    · obtain ⟨error, malformed⟩ : ∃ error,
          limits.validateText text = .error (.unreadable error) := by
        simpa [maxNesting, deep] using verdict
      exact ⟨_, malformed, by
        simp [deep, SchemaFault.kind, SchemaFault.parseError, SchemaFault.errors]⟩

/-- Two lists inside one another, and more brackets and an escaped quote inside a text. -/
def quotedBrackets : String := "[ \"[[]\\\"[\" , [] ]"

theorem quoted_brackets_classified :
    Json.nestingReaches 3 quotedBrackets = false ∧
    standard.validateText quotedBrackets =
      standard.validateRead (.arr [.str "[[]\"[", .arr []]) ∧
    ∃ fault, standard.validateText "[1,]" = .error fault ∧ fault.kind = .malformedInput := by
  have readable : Json.read? quotedBrackets = some (.arr [.str "[[]\"[", .arr []]) := by
    decide +kernel
  obtain ⟨trees, judged, _⟩ := text_classified standard quotedBrackets
  obtain ⟨tree, spelled, same⟩ := (trees _).mp readable
  obtain ⟨scanned, verdicts⟩ := judged tree spelled
  obtain ⟨_, _, shallow⟩ := verdicts (by decide +kernel)
  have flat : Json.nestingReaches 3 quotedBrackets = false := by decide +kernel
  have nested : ¬ 3 ≤ tree.nesting := by
    rw [← scanned 3 (by decide), flat]
    simp
  obtain ⟨_, _, unread⟩ := text_classified standard "[1,]"
  obtain ⟨fault, verdict, kind⟩ := unread (by decide +kernel) (by decide +kernel)
  have outside : Json.nestingReaches 128 "[1,]" = false := by decide +kernel
  rw [outside] at kind
  exact ⟨flat, same ▸ shallow (by omega), fault, verdict, kind.1⟩

end FormEngine.SchemaLimits
