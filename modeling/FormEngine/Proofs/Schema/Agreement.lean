import FormEngine.Proofs.Json.PrintedNesting
import FormEngine.Proofs.Schema.Acceptance
import FormEngine.Proofs.Schema.Texts

/-!
A document as text and as a value. Both ways in run the same stages, and they tell depth apart by
different means: a text is refused where the reader runs out of room, a value is measured. The two
draw the line one level apart, so on a document that nests exactly as deep as the line they agree
only if the groups of a form are too deep in it anyway.
-/

namespace FormEngine.FormDocument

/-- What callers learn of a verdict: the schema, or the kind of issue. -/
def classify (verdict : Except SchemaFault FormSchema) : Except IssueKind FormSchema :=
  verdict.mapError SchemaFault.kind

@[simp]
theorem classify_ok (schema : FormSchema) : classify (.ok schema) = .ok schema := rfl

@[simp]
theorem classify_error (fault : SchemaFault) : classify (.error fault) = .error fault.kind := rfl

variable (limits : SchemaLimits) (value : Json)

theorem text_verdict (readable : Json.read? value.compact = some value) :
    limits.validateText value.compact =
      if limits.maxBytes < value.byteSize then .error (.oversized limits.maxBytes)
      else if SchemaLimits.maxNesting ≤ value.nesting then
        .error (.tooDeep limits.maxGroupDepth)
      else limits.validateRead value := by
  have scanned : Json.nestingReaches SchemaLimits.maxNesting value.compact =
      decide (SchemaLimits.maxNesting ≤ value.nesting) :=
    Json.nesting_reaches_compact SchemaLimits.maxNesting value (by decide)
  rw [SchemaLimits.readable_verdict limits value.compact value readable, scanned]
  by_cases deep : SchemaLimits.maxNesting ≤ value.nesting
  · simp [deep, Json.byteSize]
  · simp [deep, Json.byteSize]

theorem verdict_too_deep (wellFormed : value.WellFormed) :
    classify (limits.validateRead value) = .error .depthExceeded ↔
      IsForm value ∧ limits.maxGroupDepth < formDepth value := by
  by_cases form : IsForm value
  · obtain ⟨schema, verdict⟩ := verdict_of_form limits value form
    by_cases deep : limits.maxGroupDepth < formDepth value
    · simp [verdict, deep, form, SchemaFault.kind]
    · simp [verdict, deep]
  · obtain ⟨fault, verdict, kind⟩ := verdict_of_other limits value wellFormed form
    simp [verdict, kind, form]

/-- The ways in classify a document alike, but for one level of nesting. -/
theorem classification_agrees_iff (wellFormed : value.WellFormed)
    (readable : Json.read? value.compact = some value) :
    classify (limits.validateText value.compact) = classify (limits.validateValue value) ↔
      (value.byteSize ≤ limits.maxBytes → value.nesting = SchemaLimits.maxNesting →
        IsForm value ∧ limits.maxGroupDepth < formDepth value) := by
  rw [text_verdict limits value readable, SchemaLimits.value_stages]
  by_cases large : limits.maxBytes < value.byteSize
  · have oversized : ¬ value.byteSize ≤ limits.maxBytes := Nat.not_le.mpr large
    simp [large, oversized]
  · have small : value.byteSize ≤ limits.maxBytes := Nat.not_lt.mp large
    rcases Nat.lt_trichotomy value.nesting SchemaLimits.maxNesting with below | same | above
    · simp [large, Nat.not_le.mpr below, Nat.lt_asymm below, Nat.ne_of_lt below]
    · have verdict := verdict_too_deep limits value wellFormed
      simp only [large, small, same, ↓reduceIte, Nat.le_refl, Nat.lt_irrefl, forall_const]
      rw [← verdict]
      exact eq_comm
    · simp [large, Nat.le_of_lt above, above, Nat.ne_of_gt above]

/-- Nothing but brackets. -/
def bracketTower : Nat → Json
  | 0 => .arr []
  | height + 1 => .arr [bracketTower height]

theorem read_bracket_tower (height fuel : Nat) (rest : List Char)
    (enough : 2 * height + 2 ≤ fuel) :
    Json.readValue fuel none ((bracketTower height).text ++ rest) =
      .ok (bracketTower height, rest) := by
  induction height generalizing fuel rest with
  | zero =>
      obtain ⟨fuel, rfl⟩ : ∃ more, fuel = more + 2 := ⟨fuel - 2, by omega⟩
      rfl
  | succ height ih =>
      obtain ⟨fuel, rfl⟩ : ∃ more, fuel = more + 3 := ⟨fuel - 3, by omega⟩
      have below := ih (fuel + 1) (']' :: rest) (by omega)
      obtain ⟨inner, same⟩ : ∃ inner, (bracketTower height).text = '[' :: inner := by
        cases height <;> exact ⟨_, rfl⟩
      have text : (bracketTower (height + 1)).text ++ rest =
          '[' :: ((bracketTower height).text ++ ']' :: rest) := by
        simp [bracketTower, Json.text, Json.itemsText]
      have item : Json.readItems (fuel + 2) none true []
          ((bracketTower height).text ++ ']' :: rest) = .ok ([bracketTower height], rest) := by
        rw [same, List.cons_append] at below ⊢
        have left : Json.readItems (fuel + 1) none false [bracketTower height] (']' :: rest) =
            .ok ([bracketTower height], rest) := rfl
        rw [Json.readItems]
        simp [Json.skipBlanks, Json.isBlank, below, left]
      rw [text]
      show Json.Reading.mapValue Json.arr (Json.readItems (fuel + 2) none true []
        ((bracketTower height).text ++ ']' :: rest)) = _
      rw [item]
      rfl

theorem bracket_tower_classified_apart :
    classify (SchemaLimits.standard.validateText (bracketTower 127).compact) ≠
      classify (SchemaLimits.standard.validateValue (bracketTower 127)) := by
  have wellFormed : ∀ height, (bracketTower height).WellFormed := by
    intro height
    induction height with
    | zero => trivial
    | succ height ih => exact ⟨ih, trivial⟩
  have readable : Json.read? (bracketTower 127).compact = some (bracketTower 127) := by
    have length : (bracketTower 127).text.length = 256 := by decide +kernel
    have read := read_bracket_tower 127 (3 * 256 + 3) [] (by decide)
    rw [List.append_nil] at read
    rw [Json.read?, Json.compact, String.toList_ofList]
    simp [Json.readText, length, read, bind, Except.bind, Json.skipBlanks, Except.toOption]
  intro same
  have condition := (classification_agrees_iff .standard (bracketTower 127) (wellFormed 127)
    readable).mp same (by decide +kernel) (by decide +kernel)
  obtain ⟨⟨members, object, _⟩, _⟩ := condition
  cases object

end FormEngine.FormDocument
