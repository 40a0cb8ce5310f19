import FormEngine.Proofs.Config.Saving
import FormEngine.Proofs.Schema.Agreement
import FormEngine.Proofs.Schema.Depth
import FormEngine.Proofs.Schema.Printed

/-!
The one limit of depth. A checked configuration allows groups to nest so deep that the JSON of an
admissible form stays far below the nesting that a reader takes, so the limits on brackets never
refuse what the limit on groups admits, and what they refuse is too deep for it as well.
-/

namespace FormEngine.Config

open FormDocument (IsForm formDepth)

section Judgement

variable (config : Config) (checked : config.check = .ok ()) (value : Json)
  (wellFormed : value.WellFormed)

include checked wellFormed

theorem nesting_below_brackets (meets : FormSchema.contractViolations value = [])
    (shallow : formDepth value ≤ config.limits.maxGroupDepth) :
    value.nesting < SchemaLimits.maxNesting := by
  have nested := FormDocument.form_nesting value wellFormed.ordered meets
  have ceiling := group_depth_checked config checked
  simp only [SchemaLimits.maxNesting]
  unfold groupDepthCeiling at ceiling
  omega

/-- Documents of distinct ids that meet the contract and can be read are judged by the depth of their
groups, as text and as a value. The limits on brackets never refuse what the limit on groups
admits. -/
theorem group_depth_decides (schema : FormSchema)
    (small : value.byteSize ≤ config.limits.maxSchemaBytes)
    (meets : FormSchema.contractViolations value = [])
    (read : Decode.formSchema value = .ok schema) (distinct : Field.Distinct schema.fields) :
    let limits := config.schemaLimits
    let depth := Field.groupDepthAll schema.fields
    let verdict : Except SchemaFault FormSchema :=
      if depth ≤ limits.maxGroupDepth then .ok schema else .error (.tooDeep limits.maxGroupDepth)
    limits.validateText value.compact = verdict ∧ limits.validateValue value = verdict ∧
      (∀ fault, verdict = .error fault → fault.kind = .depthExceeded ∧
        fault.errors = ["Groups nested too deeply. Maximum depth is " ++
          toString limits.maxGroupDepth]) ∧
      value.nesting ≤ 2 * depth + 7 ∧
      (depth ≤ limits.maxGroupDepth →
        Json.readLimited (some (SchemaLimits.maxNesting - 1)) value.compact = .ok value ∧
        Json.nestingReaches SchemaLimits.maxNesting value.compact = false ∧
        ¬ SchemaLimits.maxNesting < value.nesting) := by
  intro limits depth verdict
  have form := FormDocument.form_of_meets value schema wellFormed.ordered meets read distinct
  have same : formDepth value = depth := by
    obtain ⟨other, readOther, depthOther, _⟩ := FormDocument.form_read value form
    obtain rfl : other = schema := Except.ok.inj (readOther.symm.trans read)
    exact depthOther.symm
  have readable := FormDocument.form_read_back value wellFormed form
  have unique := (Field.duplicate_ids_empty schema.fields).mpr distinct
  have fits : ¬ limits.maxBytes < value.byteSize := Nat.not_lt.mpr small
  have judged : limits.validateRead value = verdict := by
    by_cases shallow : depth ≤ limits.maxGroupDepth
    · simp [SchemaLimits.read_stages, meets, read, unique, verdict, depth, shallow]
    · simp [SchemaLimits.read_stages, meets, read, unique, verdict, depth, shallow]
  have below : depth ≤ limits.maxGroupDepth → value.nesting < SchemaLimits.maxNesting :=
    fun shallow => nesting_below_brackets config checked value wellFormed meets (same ▸ shallow)
  have nested := FormDocument.form_nesting value wellFormed.ordered meets
  refine ⟨?_, ?_, ?_, same ▸ nested, ?_⟩
  · rw [FormDocument.text_verdict limits value readable, judged]
    by_cases shallow : depth ≤ limits.maxGroupDepth
    · simp [fits, Nat.not_le.mpr (below shallow)]
    · simp [fits, verdict, shallow]
  · rw [SchemaLimits.value_stages, judged]
    by_cases shallow : depth ≤ limits.maxGroupDepth
    · simp [fits, Nat.lt_asymm (below shallow)]
    · simp [fits, verdict, shallow]
  · intro fault refused
    by_cases shallow : depth ≤ limits.maxGroupDepth
    · simp [verdict, shallow] at refused
    · have only : fault = .tooDeep limits.maxGroupDepth := by
        simpa [verdict, shallow] using refused.symm
      subst only
      exact ⟨rfl, rfl⟩
  · intro shallow
    have scanned := Json.nesting_reaches_compact SchemaLimits.maxNesting value (by decide)
    have flat : Json.nestingReaches SchemaLimits.maxNesting value.compact = false := by
      simp [scanned, below shallow]
    refine ⟨?_, flat, Nat.lt_asymm (below shallow)⟩
    rcases Json.read_limited_within (SchemaLimits.maxNesting - 1) value.compact value readable with
      ⟨_, taken⟩ | ⟨deep, _⟩
    · exact taken
    · exact absurd (flat.symm.trans deep) (by decide)

end Judgement

section Boxes

theorem boxed_well_formed (boxes : Nat) : (boxedForm boxes).WellFormed := by
  induction boxes with
  | zero => exact ⟨by decide, trivial, trivial, trivial, trivial, trivial⟩
  | succ boxes ih =>
      have names : ["fields", "id", "label", "type"].Pairwise fun earlier later =>
          earlier < later := by decide
      exact ⟨(Keyed.sorted_iff_keys _).mpr names, ⟨ih, trivial⟩, trivial, trivial, trivial, trivial⟩

set_option maxRecDepth 8000 in
/-- As many boxes as a configuration may allow, and more than the standard one does. -/
theorem boxed_depth_decides :
    deepConfig.schemaLimits.validateText (boxedDocument groupDepthCeiling).compact =
        .ok boxedSchema ∧
      standard.schemaLimits.validateValue (boxedDocument groupDepthCeiling) =
        .error (.tooDeep standard.limits.maxGroupDepth) := by
  have wellFormed : (boxedDocument groupDepthCeiling).WellFormed :=
    ⟨by decide, ⟨boxed_well_formed _, trivial⟩, trivial, trivial⟩
  have size := (boxedDocument groupDepthCeiling).byte_size_bound
  rw [boxed_document_length] at size
  have small : (boxedDocument groupDepthCeiling).byteSize ≤ standard.limits.maxSchemaBytes :=
    Nat.le_trans size (by decide)
  obtain ⟨meets, read, distinct, _⟩ := SchemaLimits.read_passed deepConfig.schemaLimits boxedSchema
    (boxedDocument groupDepthCeiling) rfl
  obtain ⟨text, _⟩ :=
    group_depth_decides deepConfig rfl _ wellFormed boxedSchema small meets read distinct
  obtain ⟨_, document, _⟩ :=
    group_depth_decides standard rfl _ wellFormed boxedSchema small meets read distinct
  have depth : Field.groupDepthAll boxedSchema.fields = groupDepthCeiling := by decide
  rw [depth] at text document
  exact ⟨text, document⟩

end Boxes

end FormEngine.Config
