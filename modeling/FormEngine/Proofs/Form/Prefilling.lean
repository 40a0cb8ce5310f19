import FormEngine.Proofs.Form.Defaults
import FormEngine.Proofs.Schema.Positions

/-!
What a form starts with. The declared defaults are there, each at the path of the leaf that declares
it, and nothing else is: a group has an entry because of a default below it, so no group is empty.
-/

namespace FormEngine.Field

section Found

variable (fields : List Field) (distinct : Distinct fields)

include distinct

-- The walk down the ids goes from each group to its children, whose defaults the group holds.
theorem default_place (ids : List String) (value : FormValue)
    (found : FormValues.getAt ids (defaultValues fields) = some value) :
    ∃ above field, Stands field above fields ∧ ids = chain above field ∧
      defaultOf field = some value := by
  induction ids generalizing fields with
  | nil => simp [FormValues.getAt] at found
  | cons id rest ih =>
      obtain ⟨held, here⟩ : ∃ held, Keyed.find? id (defaultValues fields) = some held := by
        cases rest with
        | nil => exact ⟨value, found⟩
        | cons next others =>
            rw [FormValues.get_at_below id _ (by simp)] at found
            split at found
            · rename_i entries here
              exact ⟨_, here⟩
            · cases found
      obtain ⟨field, present, rfl, own⟩ := default_from_field fields distinct id held
        (Keyed.find_member id held _ here)
      cases rest with
      | nil =>
          obtain rfl : held = value := Option.some.inj (here.symm.trans found)
          exact ⟨[], field, .here fields present, rfl, own⟩
      | cons next others =>
          rw [FormValues.get_at_below _ _ (by simp), here] at found
          cases field with
          | leaf info kind =>
              obtain ⟨scalar, _, rfl⟩ := Option.map_eq_some_iff.mp own
              cases scalar <;> cases found
          | group info description children =>
              simp only [defaultOf] at own
              split at own
              · cases own
              · cases own
                obtain ⟨above, field, stands, same, inner⟩ := ih children
                  (distinct_children info description children fields present distinct) found
                exact ⟨_, field, .inside info description children fields above present stands,
                  by rw [chain_inside, ← same]; rfl, inner⟩

theorem defaults_filled_iff :
    defaultValues fields ≠ [] ↔
      ∃ below info kind, Stands (.leaf info kind) below fields ∧ info.default.isSome := by
  constructor
  · intro filled
    obtain ⟨below, info, kind, stands, declared, _⟩ := deepest_default fields distinct filled
    exact ⟨below, info, kind, stands, declared⟩
  · rintro ⟨below, info, kind, stands, declared⟩ bare
    have found := default_at fields distinct info kind below stands
    obtain ⟨scalar, given⟩ := Option.isSome_iff_exists.mp declared
    rw [bare, FormValues.get_at_empty, given] at found
    cases found

end Found

theorem default_of_group (info : FieldInfo) (description : Option String) (children : List Field)
    (value : FormValue) (own : defaultOf (.group info description children) = some value) :
    value = .group (defaultValues children) ∧ defaultValues children ≠ [] := by
  simp only [defaultOf] at own
  split at own
  · cases own
  · rename_i filled
    exact ⟨(Option.some.inj own).symm, filled⟩

theorem default_of_leaf (info : FieldInfo) (kind : LeafKind) (value : FormValue)
    (own : defaultOf (.leaf info kind) = some value) : value.asGroup = none := by
  obtain ⟨scalar, _, rfl⟩ := Option.map_eq_some_iff.mp own
  cases scalar <;> rfl

/-- The result holds the declared defaults at the paths of their leaves, and nothing else. -/
structure HoldsDefaults (fields : List Field) (result : FormValues) : Prop where
  leaf : ∀ above info kind, Stands (.leaf info kind) above fields →
    result.getPath (path above (.leaf info kind)) = info.default.map Scalar.toValue
  group : ∀ above info description children,
    Stands (.group info description children) above fields →
    ((result.getPath (path above (.group info description children))).isSome ↔
      ∃ below leaf kind, Stands (.leaf leaf kind) below children ∧ leaf.default.isSome)
  filled : ∀ above info description children value,
    Stands (.group info description children) above fields →
    result.getPath (path above (.group info description children)) = some value →
    ∃ entries, value = .group entries ∧ entries ≠ []
  scalar : ∀ ids value, FormValues.getAt ids result = some value → value.asGroup = none →
    ∃ above info kind, Stands (.leaf info kind) above fields ∧
      ids = Path.segments (path above (.leaf info kind)) ∧
      info.default.map Scalar.toValue = some value
  compact : ∀ ids entries, FormValues.getAt ids result = some (.group entries) → entries ≠ []

variable (limits : SchemaLimits) (schema : FormSchema)

/-- An accepted form starts with exactly the defaults that it declares. -/
theorem defaults_as_declared (admitted : limits.Admits schema) :
    HoldsDefaults schema.fields (defaultValues schema.fields) := by
  have sound := limits.admitted_sound schema admitted
  have initial : ∀ above field, Stands field above schema.fields →
      (defaultValues schema.fields).getPath (path above field) = defaultOf field := by
    intro above field stands
    rw [get_path_at field above _ stands sound.named]
    exact default_of_at _ sound.distinct field above stands
  constructor
  case leaf =>
    intro above info kind stands
    exact initial above _ stands
  case group =>
    intro above info description children stands
    have distinct := distinct_below info description children _ above stands sound.distinct
    rw [initial above _ stands, ← defaults_filled_iff children distinct]
    by_cases bare : defaultValues children = []
    · simp [defaultOf, bare]
    · simp [defaultOf, bare]
  case filled =>
    intro above info description children value stands found
    rw [initial above _ stands] at found
    exact ⟨_, default_of_group info description children value found⟩
  case scalar =>
    intro ids value found single
    obtain ⟨above, field, stands, same, own⟩ :=
      default_place _ sound.distinct ids value found
    cases field with
    | leaf info kind =>
        refine ⟨above, info, kind, stands, ?_, own⟩
        rw [segments_path _ above _ sound.named stands, same]
    | group info description children =>
        obtain ⟨rfl, _⟩ := default_of_group info description children value own
        cases single
  case compact =>
    intro ids entries found
    obtain ⟨above, field, stands, same, own⟩ := default_place _ sound.distinct ids _ found
    cases field with
    | leaf info kind => cases default_of_leaf info kind _ own
    | group info description children =>
        obtain ⟨made, filled⟩ := default_of_group info description children _ own
        cases made
        exact filled

section Addresses

theorem address_prefilled :
    let values := defaultValues addressSchema.fields
    values.getPath "work.home.city" = some (.text "Ruse") ∧
      (values.getPath "work.home").isSome = true ∧ values.getPath "home" = none ∧
      values.getPath "work.name" = none := by
  have holds := defaults_as_declared .standard addressSchema address_admitted
  have place : ∀ position above field,
      placeAt? position addressSchema.fields = some (above, field) →
        Stands field above addressSchema.fields := fun position above field found =>
    lies_stands field position above _ (lies_of_place field position above _ found)
  have city := holds.leaf _ _ _ (place [1, 1, 0] _ _ rfl)
  have office := holds.group _ _ _ _ (place [1, 1] _ _ rfl)
  have home := holds.group _ _ _ _ (place [0] _ _ rfl)
  have name := holds.leaf _ _ _ (place [1, 0] _ _ rfl)
  refine ⟨city, office.mpr ⟨[], _, _, .here _ List.mem_cons_self, rfl⟩, ?_, name⟩
  refine Option.not_isSome_iff_eq_none.mp fun there => ?_
  obtain ⟨below, leaf, kind, stands, declared⟩ := home.mp there
  cases stands with
  | here _ present =>
      obtain ⟨rfl, rfl⟩ := Field.leaf.inj (List.mem_singleton.mp present)
      cases declared
  | inside _ _ _ _ _ present _ => cases List.mem_singleton.mp present

end Addresses

end FormEngine.Field
