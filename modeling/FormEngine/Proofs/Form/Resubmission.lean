import FormEngine.Proofs.Form.Submission

/-!
Submitting what was submitted. The rules are judged anew, now against the submission, where the
values of hidden fields are gone. So a field whose rule looked at such a value may go too, and a
second pass changes nothing exactly when every leaf that was kept is still shown. Where rules look
only at leaves that no rule can hide, that is always so.
-/

namespace FormEngine.Field

/-- Every leaf that has a value here is shown, judged by the values of the whole form. -/
def LeavesShown (root : FormValues) (fields : List Field) (level : FormValues) : Prop :=
  ∀ above info kind, Stands (.leaf info kind) above fields →
    (FormValues.getAt (chain above (.leaf info kind)) level).isSome →
    Shown root above (.leaf info kind)

section Again

variable (root other level : FormValues) (fields : List Field) (distinct : Distinct fields)

include distinct

theorem leaves_shown_of_unchanged
    (same : keptAll other (keptAll root level fields) fields = keptAll root level fields) :
    LeavesShown other fields (keptAll root level fields) := by
  intro above info kind stands there
  have twice := kept_leaf_at other info kind above fields stands distinct
    (keptAll root level fields)
  rw [same] at twice
  refine Decidable.byContradiction fun hidden => ?_
  simp [twice, hidden] at there

theorem kept_leaf_again (info : FieldInfo) (kind : LeafKind)
    (present : .leaf info kind ∈ fields)
    (shown : LeavesShown other fields (keptAll root level fields)) :
    keptOf other (keptAll root level fields) (.leaf info kind) =
      keptOf root level (.leaf info kind) := by
  have here : Keyed.find? info.id (keptAll root level fields) =
      keptOf root level (.leaf info kind) := find_kept root level fields distinct _ present
  have still := shown [] info kind (.here fields present)
  simp only [chain_here, FormValues.getAt, leaf_id, shown_here] at still
  by_cases visible : isVisible info.visibility other.source = true
  · simpa [keptOf, visible] using here
  · cases kept : keptOf root level (.leaf info kind) with
    | none => simp [keptOf, visible]
    | some value => exact absurd (still (by simp [here, kept])) visible

-- What is kept below a group that is kept is found below it, so its leaves are shown too.
theorem leaves_shown_inside (info : FieldInfo) (description : Option String)
    (children : List Field) (present : .group info description children ∈ fields)
    (entries : FormValues) (held : Keyed.find? info.id level = some (.group entries))
    (visible : isVisible info.visibility root.source = true)
    (shown : LeavesShown other fields (keptAll root level fields)) (above : List Field)
    (leaf : FieldInfo) (kind : LeafKind) (stands : Stands (.leaf leaf kind) above children)
    (there : (FormValues.getAt (chain above (.leaf leaf kind))
      (keptAll root entries children)).isSome) :
    isVisible info.visibility other.source = true ∧ Shown other above (.leaf leaf kind) := by
  refine (shown_inside other above _ info description children).mp ?_
  refine shown _ leaf kind (.inside info description children fields above present stands) ?_
  rw [chain_inside, get_at_kept_group root level fields distinct info description children present
    _ (chain_filled _ _)]
  simpa [visible, held] using there

omit distinct in
/-- Nothing is lost once every leaf that was kept is still shown: a group stays because of them. -/
theorem kept_again (fields : List Field) (distinct : Distinct fields) (level : FormValues)
    (shown : LeavesShown other fields (keptAll root level fields)) :
    keptAll other (keptAll root level fields) fields = keptAll root level fields := by
  refine kept_all_congr root level fields distinct other _ fun field present => ?_
  have here := find_kept root level fields distinct field present
  cases field with
  | leaf info kind => exact kept_leaf_again root other level fields distinct info kind present shown
  | group info description children =>
      rw [group_id] at here
      cases kept : keptOf root level (.group info description children) with
      | none =>
          rw [kept] at here
          simp [keptOf, here]
      | some value =>
          obtain ⟨visible, entries, held, rfl, filled⟩ :=
            kept_group root level info description children value kept
          have inner := distinct_children info description children fields present distinct
          have below := leaves_shown_inside root other level fields distinct info description
            children present entries held visible shown
          obtain ⟨above, leaf, kind, stands, there⟩ :=
            kept_leaf_below root children inner entries filled
          have again := (below above leaf kind stands there).1
          have nested := kept_again children inner entries fun above leaf kind stands there =>
            (below above leaf kind stands there).2
          rw [kept] at here
          simp [keptOf, again, here, nested, filled]
termination_by groupDepthAll fields
decreasing_by exact depth_children info description children fields present

end Again

variable (limits : SchemaLimits) (schema : FormSchema) (values : FormValues)

theorem unchanged_of_shown (fields : List Field) (sound : limits.Sound fields)
    (shown : ∀ above info kind, Stands (.leaf info kind) above fields →
      ((submission fields values).getPath (path above (.leaf info kind))).isSome →
      Shown (submission fields values) above (.leaf info kind)) :
    submission fields (submission fields values) = submission fields values := by
  refine kept_again values _ fields sound.distinct values fun above info kind stands there => ?_
  refine shown above info kind stands ?_
  rw [get_path_at _ above _ stands sound.named]
  exact there

/-- A second pass leaves a submission alone exactly when all leaves in it are still shown. -/
theorem resubmission_unchanged_iff (admitted : limits.Admits schema) :
    submission schema.fields (submission schema.fields values) =
        submission schema.fields values ↔
      ∀ above info kind, Stands (.leaf info kind) above schema.fields →
        ((submission schema.fields values).getPath (path above (.leaf info kind))).isSome →
        Shown (submission schema.fields values) above (.leaf info kind) := by
  have sound := limits.admitted_sound schema admitted
  constructor
  · intro same above info kind stands there
    rw [get_path_at _ above _ stands sound.named] at there
    exact leaves_shown_of_unchanged values _ values schema.fields sound.distinct same above info
      kind stands there
  · exact unchanged_of_shown limits values schema.fields sound

theorem travel_resubmission :
    submission travelSchema.fields (submission travelSchema.fields travelValues) ≠
      submission travelSchema.fields travelValues := by
  intro same
  have city : Stands (.leaf cityInfo (.text none)) [travelAddress] travelSchema.fields :=
    .inside _ _ _ _ _ (by simp [travelSchema, travelAddress]) (.here _ (by simp))
  have still := (resubmission_unchanged_iff .standard travelSchema travelValues
    travel_admitted).mp same _ _ _ city (by decide)
  exact absurd still (by decide)

section Unconditioned

/-- No rule can hide the field. -/
def Unconditioned (above : List Field) (field : Field) : Prop :=
  ∀ each ∈ above ++ [field], each.info.visibility = none

/-- The rules of the form look only at leaves that no rule can hide. -/
def SettledRules (fields : List Field) : Prop :=
  ∀ above field rule condition, Stands field above fields → field.info.visibility = some rule →
    condition ∈ rule.conditions →
    ∃ outer info kind, Stands (.leaf info kind) outer fields ∧
      Unconditioned outer (.leaf info kind) ∧ condition.field = path outer (.leaf info kind)

theorem shown_unconditioned (above : List Field) (field : Field)
    (free : Unconditioned above field) : Shown values above field := by
  intro each listed
  simp [free each listed, isVisible]

theorem stands_above (fields above : List Field) (field : Field)
    (stands : Stands field above fields) :
    ∀ each ∈ above ++ [field], ∃ outer, Stands each outer fields := by
  induction stands with
  | here fields present => simpa using ⟨[], .here fields present⟩
  | inside info description children fields above present _ ih =>
      rw [List.cons_append, List.forall_mem_cons]
      refine ⟨⟨[], .here fields present⟩, fun each listed => ?_⟩
      obtain ⟨outer, deeper⟩ := ih each listed
      exact ⟨_, .inside info description children fields outer present deeper⟩

/-- Filtering twice is filtering once wherever rules look only at leaves that are always shown. -/
theorem resubmission_unchanged_of_settled (admitted : limits.Admits schema)
    (settled : SettledRules schema.fields) :
    submission schema.fields (submission schema.fields values) =
      submission schema.fields values := by
  have sound := limits.admitted_sound schema admitted
  have leaf := submission_leaf limits values schema.fields sound
  refine unchanged_of_shown limits values schema.fields sound ?_
  intro above info kind stands there each listed
  have shown : Shown values above (.leaf info kind) := by
    refine Decidable.byContradiction fun hidden => ?_
    simp [leaf above info kind stands, hidden] at there
  obtain ⟨outer, place⟩ := stands_above _ above _ stands each listed
  have before := shown each listed
  cases rule : each.info.visibility with
  | none => rfl
  | some rule' =>
      rw [rule] at before
      refine (rule_holds_congr rule' _ _ fun condition present => ?_).trans before
      obtain ⟨way, inner, other, stood, free, same⟩ :=
        settled outer each rule' condition place rule present
      have kept := leaf way inner other stood
      rw [if_pos (shown_unconditioned values way _ free)] at kept
      simpa [FormValues.source, same] using kept

end Unconditioned

end FormEngine.Field
