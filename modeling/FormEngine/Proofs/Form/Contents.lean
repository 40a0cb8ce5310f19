import FormEngine.Proofs.Form.Submission

/-!
What a submission is made of. Every value in it, however deep, has its place at a field that is
shown, or below a leaf that is shown: a leaf hands on whatever value it has, and where that is a
group, so is all that the group holds. Without such leaves a submission is made of fields only.
-/

namespace FormEngine.Field

/-- The ids lead to the field, which is shown with all groups above it. -/
def Placed (values : FormValues) (fields : List Field) (ids : List String) (field : Field) : Prop :=
  ∃ above, Stands field above fields ∧ Shown values above field ∧ ids = chain above field

def AtLeaf (values : FormValues) (fields : List Field) (ids : List String) : Prop :=
  ∃ info kind, Placed values fields ids (.leaf info kind)

def AtGroup (values : FormValues) (fields : List Field) (ids : List String) : Prop :=
  ∃ info description children, Placed values fields ids (.group info description children)

/-- Texts and flags are at leaves, groups are at groups, and none of these is empty. -/
structure MadeOfFields (fields : List Field) (values result : FormValues) : Prop where
  scalar : ∀ ids value, FormValues.getAt ids result = some value → value.asGroup = none →
    AtLeaf values fields ids
  group : ∀ ids entries, FormValues.getAt ids result = some (.group entries) →
    AtGroup values fields ids ∧ entries ≠ []

section Places

variable (root : FormValues)

theorem placed_here (fields : List Field) (field : Field) (present : field ∈ fields)
    (visible : isVisible field.info.visibility root.source = true) :
    Placed root fields [field.id] field :=
  ⟨[], .here fields present, (shown_here root field).mpr visible, rfl⟩

theorem placed_inside (info : FieldInfo) (description : Option String)
    (children fields : List Field) (present : .group info description children ∈ fields)
    (visible : isVisible info.visibility root.source = true) (ids : List String) (field : Field)
    (placed : Placed root children ids field) : Placed root fields (info.id :: ids) field := by
  obtain ⟨above, stands, shown, rfl⟩ := placed
  refine ⟨_, .inside info description children fields above present stands, ?_, rfl⟩
  exact (shown_inside root above field info description children).mpr ⟨visible, shown⟩

-- The walk down the ids goes from each group to its children, until it comes to a leaf.
theorem kept_place (ids : List String) (fields : List Field) (distinct : Distinct fields)
    (level : FormValues) (value : FormValue)
    (found : FormValues.getAt ids (keptAll root level fields) = some value) :
    (∃ place rest, AtLeaf root fields place ∧ ids = place ++ rest) ∨
      (AtGroup root fields ids ∧ ∃ entries, value = .group entries ∧ entries ≠ []) := by
  induction ids generalizing fields level with
  | nil => simp [FormValues.getAt] at found
  | cons id rest ih =>
      obtain ⟨held, here⟩ : ∃ held, Keyed.find? id (keptAll root level fields) = some held := by
        cases rest with
        | nil => exact ⟨value, found⟩
        | cons next others =>
            obtain ⟨entries, here⟩ :=
              FormValues.get_at_prefix [id] (next :: others) _ value (by simp) (by simp) found
            exact ⟨_, here⟩
      obtain ⟨field, present, rfl, kept⟩ := kept_from_field root level fields distinct id held here
      cases field with
      | leaf info kind =>
          have visible : isVisible info.visibility root.source = true := by
            simp only [keptOf, Option.ite_none_right_eq_some] at kept
            exact kept.1
          have placed := placed_here root fields (.leaf info kind) present visible
          exact Or.inl ⟨_, rest, ⟨info, kind, placed⟩, rfl⟩
      | group info description children =>
          obtain ⟨visible, entries, _, rfl, filled⟩ :=
            kept_group root level info description children held kept
          have inside := placed_inside root info description children fields present visible
          cases rest with
          | nil =>
              obtain rfl := Option.some.inj (found.symm.trans here)
              have placed := placed_here root fields _ present visible
              exact Or.inr ⟨⟨info, description, children, placed⟩, _, rfl, filled⟩
          | cons next others =>
              rw [FormValues.get_at_below _ _ (by simp), here] at found
              have inner := distinct_children info description children fields present distinct
              rcases ih children inner entries found with
                ⟨place, more, ⟨leaf, kind, placed⟩, same⟩ | ⟨⟨group, note, others, placed⟩, held⟩
              · refine Or.inl ⟨info.id :: place, more, ⟨leaf, kind, inside place _ placed⟩, ?_⟩
                rw [same]
                rfl
              · exact Or.inr ⟨⟨group, note, others, inside _ _ placed⟩, held⟩

end Places

section Submissions

variable (limits : SchemaLimits) (schema : FormSchema) (values : FormValues)

/-- The leaf is shown, and its value is a group all the same. -/
def HandsOnGroup (fields : List Field) (values : FormValues) : Prop :=
  ∃ above info kind entries, Stands (.leaf info kind) above fields ∧
    Shown values above (.leaf info kind) ∧
    values.getPath (path above (.leaf info kind)) = some (.group entries)

section Sound

variable (fields : List Field) (sound : limits.Sound fields)

include sound

/-- What is found past a leaf is in a group that the leaf has as its value. -/
theorem hands_on_of_past (ids rest : List String) (leaf : AtLeaf values fields ids)
    (value : FormValue)
    (found : FormValues.getAt (ids ++ rest) (submission fields values) = some value)
    (deep : rest ≠ [] ∨ ∃ entries, value = .group entries) : HandsOnGroup fields values := by
  obtain ⟨info, kind, above, stands, shown, rfl⟩ := leaf
  obtain ⟨entries, held⟩ : ∃ entries, FormValues.getAt (chain above (.leaf info kind))
      (submission fields values) = some (.group entries) := by
    rcases deep with filled | ⟨entries, rfl⟩
    · exact FormValues.get_at_prefix _ rest _ value filled (chain_filled _ _) found
    · cases rest with
      | nil => exact ⟨entries, by simpa using found⟩
      | cons next others =>
          exact FormValues.get_at_prefix _ _ _ _ (by simp) (chain_filled _ _) found
  have kept := submission_leaf limits values fields sound above info kind stands
  rw [if_pos shown, get_path_at _ above fields stands sound.named, held] at kept
  exact ⟨above, info, kind, entries, stands, shown, kept.symm⟩

theorem made_of_fields_iff :
    MadeOfFields fields values (submission fields values) ↔ ¬ HandsOnGroup fields values := by
  constructor
  · rintro made ⟨above, info, kind, entries, stands, shown, held⟩
    have kept := submission_leaf limits values fields sound above info kind stands
    rw [if_pos shown, held, get_path_at _ above fields stands sound.named] at kept
    obtain ⟨⟨other, description, children, beside, standing, _, same⟩, _⟩ :=
      made.group _ entries kept
    have one := stands_unique _ _ beside fields sound.distinct above stands standing same
    simp at one
  · intro none
    constructor
    case scalar =>
      intro ids value found plain
      rcases kept_place values ids fields sound.distinct values value found with
        ⟨place, rest, leaf, rfl⟩ | ⟨_, entries, rfl, _⟩
      · cases rest with
        | nil => simpa using leaf
        | cons next others =>
            exact absurd (hands_on_of_past limits values fields sound place _ leaf value found
              (Or.inl (by simp))) none
      · simp [FormValue.asGroup] at plain
    case group =>
      intro ids entries found
      rcases kept_place values ids fields sound.distinct values (.group entries) found with
        ⟨place, rest, leaf, rfl⟩ | ⟨group, held, same, filled⟩
      · exact absurd (hands_on_of_past limits values fields sound place rest leaf _ found
          (Or.inr ⟨entries, rfl⟩)) none
      · cases same
        exact ⟨group, filled⟩

end Sound

/-- Whatever is in the submission of an accepted form is at a field that is shown or below a leaf that
is, and it is made of fields only just where no such leaf hands on a group. -/
theorem submission_made_of_fields_iff (admitted : limits.Admits schema) :
    (∀ ids value, FormValues.getAt ids (submission schema.fields values) = some value →
      (∃ place rest, AtLeaf values schema.fields place ∧ ids = place ++ rest) ∨
      (AtGroup values schema.fields ids ∧ ∃ entries, value = .group entries ∧ entries ≠ [])) ∧
    (MadeOfFields schema.fields values (submission schema.fields values) ↔
      ¬ HandsOnGroup schema.fields values) := by
  have sound := limits.admitted_sound schema admitted
  constructor
  · intro ids value found
    exact kept_place values ids schema.fields sound.distinct values value found
  · exact made_of_fields_iff limits values schema.fields sound

end Submissions

section Travel

/-- The country is a group, with a text in it that no field of the form is for. -/
def regionValues : FormValues :=
  [("abroad", .flag false), ("country", .group [("region", .text "Plovdiv")])]

theorem region_handed_on :
    (submission travelSchema.fields regionValues).getPath "country.region" =
        some (.text "Plovdiv") ∧
      ¬ MadeOfFields travelSchema.fields regionValues
        (submission travelSchema.fields regionValues) := by
  refine ⟨by decide +kernel, fun made => ?_⟩
  have country : Stands (.leaf countryInfo (.text none)) [] travelSchema.fields :=
    .here _ (by simp [travelSchema])
  have held : regionValues.getPath (path [] (.leaf countryInfo (.text none))) =
      some (.group [("region", .text "Plovdiv")]) := by decide +kernel
  exact (submission_made_of_fields_iff .standard travelSchema regionValues travel_admitted).2.mp made
    ⟨[], countryInfo, .text none, _, country, by decide, held⟩

end Travel

end FormEngine.Field
