import FormEngine.Proofs.Form.Gathering
import FormEngine.Proofs.Schema.Places
import FormEngine.Proofs.Values.Shape

/-!
Where initial values stand. Every default is found at the path of its leaf, groups are there only
because of the defaults below them, and so the initial values nest exactly as deep as the deepest
leaf with a default stands.
-/

namespace FormEngine.Field

open FormValue (nesting nestingEntries)

/-- The initial value of a field. -/
def defaultOf : Field → Option FormValue
  | .leaf info _ => info.default.map Scalar.toValue
  | .group _ _ fields =>
      if defaultValues fields = [] then none else some (.group (defaultValues fields))

theorem add_default_gathers (values : FormValues) (field : Field) :
    addDefault values field = gatherOne defaultOf values field := by
  cases field with
  | leaf info kind =>
      cases held : info.default <;> simp [addDefault, gatherOne, defaultOf, held]
  | group info description fields =>
      have nested : addDefaults FormValues.empty fields = defaultValues fields := rfl
      by_cases bare : defaultValues fields = []
      · simp [addDefault, gatherOne, defaultOf, nested, bare]
      · simp [addDefault, gatherOne, defaultOf, nested, bare]

theorem add_defaults_gathers (values : FormValues) (fields : List Field) :
    addDefaults values fields = gather defaultOf values fields := by
  induction fields generalizing values with
  | nil => rfl
  | cons field rest ih =>
      rw [addDefaults, add_default_gathers, ih]
      rfl

theorem default_values_gathers (fields : List Field) :
    defaultValues fields = gather defaultOf FormValues.empty fields :=
  add_defaults_gathers FormValues.empty fields

theorem defaults_sorted (fields : List Field) : Keyed.Sorted (defaultValues fields) := by
  rw [default_values_gathers]
  exact gather_sorted defaultOf _ fields List.Pairwise.nil

section Defaults

variable (fields : List Field) (distinct : Distinct fields)

include distinct

theorem find_default (field : Field) (present : field ∈ fields) :
    Keyed.find? field.id (defaultValues fields) = defaultOf field := by
  rw [default_values_gathers]
  exact find_gather defaultOf fields distinct.1 field present

theorem default_from_field (key : String) (value : FormValue)
    (member : (key, value) ∈ defaultValues fields) :
    ∃ field ∈ fields, field.id = key ∧ defaultOf field = some value := by
  have found := Keyed.sorted_find key value _ (defaults_sorted fields) member
  rw [default_values_gathers] at found
  exact gathered_from_field defaultOf fields distinct.1 key value found

/-- Every field starts with its initial value. -/
theorem default_of_at (field : Field) (above : List Field) (stands : Stands field above fields) :
    FormValues.getAt (chain above field) (defaultValues fields) = defaultOf field := by
  induction stands with
  | here fields present => exact find_default fields distinct field present
  | inside outer description children fields above present _ ih =>
      have inner := ih (distinct_children outer description children fields present distinct)
      have held := find_default fields distinct _ present
      rw [group_id] at held
      rw [chain_inside, FormValues.get_at_below _ _ (chain_filled _ _), held]
      by_cases bare : defaultValues children = []
      · simpa [defaultOf, bare] using inner
      · simpa [defaultOf, bare] using inner

theorem default_at (info : FieldInfo) (kind : LeafKind) (above : List Field)
    (stands : Stands (.leaf info kind) above fields) :
    FormValues.getAt (chain above (.leaf info kind)) (defaultValues fields) =
      info.default.map Scalar.toValue :=
  default_of_at fields distinct (.leaf info kind) above stands

omit distinct in
/-- Some leaf with a default stands as deep as the initial values nest. -/
theorem deepest_default (fields : List Field) (distinct : Distinct fields)
    (filled : defaultValues fields ≠ []) :
    ∃ above info kind, Stands (.leaf info kind) above fields ∧ info.default.isSome ∧
      above.length = nestingEntries (defaultValues fields) := by
  obtain ⟨key, value, member, deepest⟩ := FormValues.deepest_entry _ filled
  obtain ⟨field, present, _, held⟩ := default_from_field fields distinct key value member
  rw [← deepest]
  cases field with
  | leaf info kind =>
      obtain ⟨scalar, default, rfl⟩ := Option.map_eq_some_iff.mp held
      refine ⟨[], info, kind, .here fields present, by simp [default], ?_⟩
      cases scalar <;> rfl
  | group info description children =>
      simp only [defaultOf] at held
      split at held
      · simp at held
      · rename_i some
        cases held
        obtain ⟨above, leaf, kind, stands, default, same⟩ := deepest_default children
          (distinct_children info description children fields present distinct) some
        refine ⟨_, leaf, kind, .inside info description children fields above present stands,
          default, ?_⟩
        simp [nesting, same]
termination_by groupDepthAll fields
decreasing_by exact depth_children info description children fields present

theorem defaults_nesting_bound (limit : Nat) :
    nestingEntries (defaultValues fields) ≤ limit ↔
      ∀ above info kind, Stands (.leaf info kind) above fields → info.default.isSome →
        above.length ≤ limit := by
  constructor
  · intro shallow above info kind stands default
    obtain ⟨scalar, given⟩ := Option.isSome_iff_exists.mp default
    have found := default_at fields distinct info kind above stands
    rw [given] at found
    have nested := FormValues.get_at_nesting _ _ _ found
    simp only [chain, List.length_append, List.length_map, List.length_singleton] at nested
    omega
  · intro bounded
    by_cases filled : defaultValues fields = []
    · simp [filled, nestingEntries]
    · obtain ⟨above, info, kind, stands, default, same⟩ := deepest_default fields distinct filled
      have := bounded above info kind stands default
      omega

end Defaults

end FormEngine.Field
