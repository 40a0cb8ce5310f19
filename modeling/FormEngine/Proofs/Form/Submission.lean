import FormEngine.Form.Submission
import FormEngine.Proofs.Form.Gathering
import FormEngine.Proofs.Schema.Admission

/-!
What a submission holds. It is followed down the groups of the form, next to the values it is made
from: the value of a field is there exactly when the field and all groups above it are shown, a
group exactly when a leaf below it has a value, and nothing is there that is no field of the form.
-/

namespace FormEngine.Field

/-- The visibility rules of the field and of every group above it hold. -/
def Shown (values : FormValues) (above : List Field) (field : Field) : Prop :=
  ∀ each ∈ above ++ [field], isVisible each.info.visibility values.source = true

instance (values : FormValues) (above : List Field) (field : Field) :
    Decidable (Shown values above field) :=
  inferInstanceAs (Decidable (∀ each ∈ above ++ [field],
    isVisible each.info.visibility values.source = true))

section Visible

variable (values : FormValues) (above : List Field) (field : Field)

theorem shown_here :
    Shown values [] field ↔ isVisible field.info.visibility values.source = true := by
  simp [Shown]

theorem shown_inside (info : FieldInfo) (description : Option String) (children : List Field) :
    Shown values (.group info description children :: above) field ↔
      isVisible info.visibility values.source = true ∧ Shown values above field := by
  simp [Shown, Field.info]

theorem rule_holds_congr (rule : VisibilityRule) (left right : ValueSource)
    (same : ∀ condition ∈ rule.conditions, left condition.field = right condition.field) :
    rule.holds left = rule.holds right := by
  unfold VisibilityRule.holds
  rw [Bool.eq_iff_iff, List.all_eq_true, List.all_eq_true]
  exact forall₂_congr fun condition listed => by rw [same condition listed]

end Visible

section Kept

variable (root level : FormValues)

def keptAll (fields : List Field) : FormValues :=
  keepVisibleAll root level FormValues.empty fields

/-- What a field contributes to a submission, seen from the values beside it. -/
def keptOf : Field → Option FormValue
  | .leaf info _ =>
      if isVisible info.visibility root.source then Keyed.find? info.id level else none
  | .group info _ fields =>
      if isVisible info.visibility root.source then
        match Keyed.find? info.id level with
        | some (.group entries) =>
            if keptAll root entries fields = [] then none
            else some (.group (keptAll root entries fields))
        | _ => none
      else none

theorem keep_visible_gathers (kept : FormValues) (field : Field) :
    keepVisible root level kept field = gatherOne (keptOf root level) kept field := by
  cases field with
  | leaf info kind =>
      by_cases visible : isVisible info.visibility root.source = true
      · cases found : Keyed.find? info.id level <;>
          simp [keepVisible, gatherOne, keptOf, visible, found]
      · simp [keepVisible, gatherOne, keptOf, visible]
  | group info description fields =>
      by_cases visible : isVisible info.visibility root.source = true
      · cases found : Keyed.find? info.id level with
        | none => simp [keepVisible, gatherOne, keptOf, visible, found]
        | some value =>
            cases value with
            | group entries =>
                by_cases bare : keptAll root entries fields = []
                · have none : keepVisibleAll root entries FormValues.empty fields = [] := bare
                  simp [keepVisible, gatherOne, keptOf, visible, found, bare, none]
                · have some : keepVisibleAll root entries FormValues.empty fields ≠ [] := bare
                  simp [keepVisible, gatherOne, keptOf, visible, found, some, keptAll]
            | _ => simp [keepVisible, gatherOne, keptOf, visible, found]
      · simp [keepVisible, gatherOne, keptOf, visible]

theorem kept_all_gathers (fields : List Field) :
    keptAll root level fields = gather (keptOf root level) FormValues.empty fields := by
  unfold keptAll
  generalize FormValues.empty = start
  induction fields generalizing start with
  | nil => simp [keepVisibleAll, gather]
  | cons first rest ih => simp [keepVisibleAll, gather, keep_visible_gathers, ih]

variable (fields : List Field)

theorem kept_all_sorted : Keyed.Sorted (keptAll root level fields) := by
  rw [kept_all_gathers]
  exact gather_sorted _ _ fields List.Pairwise.nil

variable (distinct : Distinct fields)

include distinct

theorem find_kept (field : Field) (present : field ∈ fields) :
    Keyed.find? field.id (keptAll root level fields) = keptOf root level field := by
  rw [kept_all_gathers]
  exact find_gather _ fields distinct.1 field present

theorem kept_from_field (key : String) (value : FormValue)
    (found : Keyed.find? key (keptAll root level fields) = some value) :
    ∃ field ∈ fields, field.id = key ∧ keptOf root level field = some value := by
  rw [kept_all_gathers] at found
  exact gathered_from_field _ fields distinct.1 key value found

theorem kept_keys (key : String) (listed : key ∈ Keyed.keys (keptAll root level fields)) :
    ∃ field ∈ fields, field.id = key := by
  obtain ⟨value, found⟩ := (Keyed.mem_keys key _).mp listed
  obtain ⟨field, present, same, _⟩ :=
    kept_from_field root level fields distinct key value found
  exact ⟨field, present, same⟩

/-- What is kept is settled by what each field contributes. -/
theorem kept_all_congr (other next : FormValues)
    (agree : ∀ field ∈ fields, keptOf other next field = keptOf root level field) :
    keptAll other next fields = keptAll root level fields := by
  refine Keyed.sorted_ext _ _ (kept_all_sorted _ _ _) (kept_all_sorted _ _ _) fun key => ?_
  by_cases owned : key ∈ fields.map id
  · obtain ⟨field, present, rfl⟩ := List.mem_map.mp owned
    rw [find_kept _ _ _ distinct field present, find_kept _ _ _ distinct field present]
    exact agree field present
  · have foreign : ∀ field ∈ fields, field.id ≠ key :=
      fun field present same => owned (same ▸ List.mem_map_of_mem present)
    rw [kept_all_gathers, kept_all_gathers, find_gather_foreign _ _ _ key foreign,
      find_gather_foreign _ _ _ key foreign]

end Kept

section Groups

variable (root level : FormValues)

theorem kept_group (info : FieldInfo) (description : Option String) (children : List Field)
    (value : FormValue)
    (kept : keptOf root level (.group info description children) = some value) :
    isVisible info.visibility root.source = true ∧
      ∃ entries, Keyed.find? info.id level = some (.group entries) ∧
        value = .group (keptAll root entries children) ∧ keptAll root entries children ≠ [] := by
  simp only [keptOf] at kept
  split at kept
  · rename_i visible
    split at kept
    · rename_i entries found
      split at kept
      · simp at kept
      · rename_i filled
        exact ⟨visible, entries, found, (Option.some.inj kept).symm, filled⟩
    · simp at kept
  · simp at kept

-- An empty group is left out, which no look-up below it can tell.
theorem get_at_kept_group (fields : List Field) (distinct : Distinct fields) (info : FieldInfo)
    (description : Option String) (children : List Field)
    (present : .group info description children ∈ fields) (rest : List String)
    (filled : rest ≠ []) :
    FormValues.getAt (info.id :: rest) (keptAll root level fields) =
      if isVisible info.visibility root.source then
        match Keyed.find? info.id level with
        | some (.group entries) => FormValues.getAt rest (keptAll root entries children)
        | _ => none
      else none := by
  have here : Keyed.find? info.id (keptAll root level fields) =
      keptOf root level (.group info description children) :=
    find_kept root level fields distinct _ present
  rw [FormValues.get_at_below info.id rest filled, here]
  by_cases visible : isVisible info.visibility root.source = true
  · cases found : Keyed.find? info.id level with
    | none => simp [keptOf, visible, found]
    | some value =>
        cases value with
        | group entries =>
            by_cases bare : keptAll root entries children = []
            · simp [keptOf, visible, found, bare]
            · simp [keptOf, visible, found, bare]
        | _ => simp [keptOf, visible, found]
  · simp [keptOf, visible]

end Groups

section Places

variable (root : FormValues)

/-- A leaf keeps its value when it is shown and has none otherwise. -/
theorem kept_leaf_at (info : FieldInfo) (kind : LeafKind) (above fields : List Field)
    (stands : Stands (.leaf info kind) above fields) (distinct : Distinct fields)
    (level : FormValues) :
    FormValues.getAt (chain above (.leaf info kind)) (keptAll root level fields) =
      if Shown root above (.leaf info kind) then
        FormValues.getAt (chain above (.leaf info kind)) level
      else none := by
  induction stands generalizing level with
  | here fields present =>
      have kept := find_kept root level fields distinct _ present
      simp only [chain_here, FormValues.getAt, shown_here]
      exact kept
  | inside group description children fields above present deeper ih =>
      have below := ih (distinct_children group description children fields present distinct)
      rw [chain_inside, get_at_kept_group root level fields distinct group description children
        present _ (chain_filled _ _), FormValues.get_at_below _ _ (chain_filled _ _)]
      by_cases visible : isVisible group.visibility root.source = true
      · cases found : Keyed.find? group.id level with
        | none => simp
        | some value =>
            cases value with
            | group entries =>
                simpa [shown_inside, visible] using below entries
            | _ => simp
      · simp [shown_inside, visible]

/-- A group that is there holds what is kept below it, and was there before. -/
theorem kept_group_at (info : FieldInfo) (description : Option String) (children : List Field)
    (above fields : List Field)
    (stands : Stands (.group info description children) above fields) (distinct : Distinct fields)
    (level : FormValues) (value : FormValue)
    (found : FormValues.getAt (chain above (.group info description children))
      (keptAll root level fields) = some value) :
    Shown root above (.group info description children) ∧
      ∃ entries, value = .group (keptAll root entries children) ∧
        keptAll root entries children ≠ [] := by
  induction stands generalizing level with
  | here fields present =>
      have kept := find_kept root level fields distinct _ present
      obtain ⟨visible, entries, _, same, filled⟩ :=
        kept_group root level info description children value (kept.symm.trans found)
      exact ⟨(shown_here root _).mpr visible, entries, same, filled⟩
  | inside group description' middle fields above present deeper ih =>
      rw [chain_inside] at found
      have step := get_at_kept_group root level fields distinct group description' middle
        present _ (chain_filled above (.group info description children))
      rw [step] at found
      split at found
      · rename_i visible
        split at found
        · obtain ⟨shown, rest⟩ := ih
            (distinct_children group description' middle fields present distinct) _ found
          exact ⟨(shown_inside root above _ _ _ _).mpr ⟨visible, shown⟩, rest⟩
        · simp at found
      · simp at found

/-- Something is kept only because some leaf is. -/
theorem kept_leaf_below (fields : List Field) (distinct : Distinct fields) (level : FormValues)
    (filled : keptAll root level fields ≠ []) :
    ∃ below info kind, Stands (.leaf info kind) below fields ∧
      (FormValues.getAt (chain below (.leaf info kind)) (keptAll root level fields)).isSome := by
  obtain ⟨key, value, found⟩ :
      ∃ key value, Keyed.find? key (keptAll root level fields) = some value := by
    obtain ⟨⟨key, value⟩, rest, same⟩ := List.exists_cons_of_ne_nil filled
    exact ⟨key, value, by simp [same, Keyed.find?]⟩
  obtain ⟨field, present, rfl, kept⟩ := kept_from_field root level fields distinct key value found
  cases field with
  | leaf info kind =>
      have there : Keyed.find? info.id (keptAll root level fields) = some value := found
      exact ⟨[], info, kind, .here fields present, by simp [FormValues.getAt, there]⟩
  | group info description children =>
      obtain ⟨visible, entries, held, same, inner⟩ :=
        kept_group root level info description children value kept
      obtain ⟨below, leaf, kind, stands, there⟩ := kept_leaf_below children
        (distinct_children info description children fields present distinct) entries inner
      refine ⟨_ :: below, leaf, kind, .inside info description children fields below present stands,
        ?_⟩
      rw [chain_inside]
      have step := get_at_kept_group root level fields distinct info description children present
        _ (chain_filled below (.leaf leaf kind))
      simp only [visible, held, ↓reduceIte] at step
      exact step ▸ there
termination_by groupDepthAll fields
decreasing_by exact depth_children info description children fields present

end Places

section Submissions

/-- The result holds the values of the fields that are shown among the values, and nothing else. -/
structure HoldsShown (fields : List Field) (values result : FormValues) : Prop where
  leaf : ∀ above info kind, Stands (.leaf info kind) above fields →
    result.getPath (path above (.leaf info kind)) =
      if Shown values above (.leaf info kind) then
        values.getPath (path above (.leaf info kind))
      else none
  group : ∀ above info description children,
    Stands (.group info description children) above fields →
    ((result.getPath (path above (.group info description children))).isSome ↔
      Shown values above (.group info description children) ∧
      ∃ below leaf kind, Stands (.leaf leaf kind) below children ∧
        (result.getPath (path (above ++ .group info description children :: below)
          (.leaf leaf kind))).isSome)
  filled : ∀ above info description children value,
    Stands (.group info description children) above fields →
    result.getPath (path above (.group info description children)) = some value →
    ∃ entries, value = .group entries ∧ entries ≠ [] ∧
      ∀ key ∈ Keyed.keys entries, ∃ child ∈ children, child.id = key
  known : ∀ key ∈ Keyed.keys result, ∃ field ∈ fields, field.id = key

variable (limits : SchemaLimits) (schema : FormSchema) (values : FormValues)

theorem submission_leaf (fields : List Field) (sound : limits.Sound fields) (above : List Field)
    (info : FieldInfo) (kind : LeafKind) (stands : Stands (.leaf info kind) above fields) :
    (submission fields values).getPath (path above (.leaf info kind)) =
      if Shown values above (.leaf info kind) then values.getPath (path above (.leaf info kind))
      else none := by
  rw [get_path_at _ above _ stands sound.named, get_path_at _ above _ stands sound.named]
  exact kept_leaf_at values info kind above _ stands sound.distinct values

theorem submission_group_iff (fields : List Field) (sound : limits.Sound fields)
    (above children : List Field) (info : FieldInfo) (description : Option String)
    (stands : Stands (.group info description children) above fields) :
    ((submission fields values).getPath (path above (.group info description children))).isSome ↔
      Shown values above (.group info description children) ∧
      ∃ below leaf kind, Stands (.leaf leaf kind) below children ∧
        ((submission fields values).getPath
          (path (above ++ .group info description children :: below) (.leaf leaf kind))).isSome := by
  have lower := fun below leaf kind (inner : Stands (.leaf leaf kind) below children) =>
    stands_append info description children fields above below _ stands inner
  rw [get_path_at _ above fields stands sound.named]
  constructor
  · intro there
    obtain ⟨value, found⟩ := Option.isSome_iff_exists.mp there
    obtain ⟨shown, entries, same, filled⟩ :=
      kept_group_at values info description children above fields stands sound.distinct values
        value found
    obtain ⟨below, leaf, kind, inner, held⟩ := kept_leaf_below values children
      (distinct_below info description children fields above stands sound.distinct) entries filled
    refine ⟨shown, below, leaf, kind, inner, ?_⟩
    rw [get_path_at _ _ fields (lower below leaf kind inner) sound.named, chain_append,
      FormValues.get_at_group _ _ _ _ (chain_filled _ _) (same ▸ found)]
    exact held
  · rintro ⟨_, below, leaf, kind, inner, there⟩
    obtain ⟨value, found⟩ := Option.isSome_iff_exists.mp there
    rw [get_path_at _ _ fields (lower below leaf kind inner) sound.named, chain_append] at found
    obtain ⟨entries, held⟩ :=
      FormValues.get_at_prefix _ _ _ value (chain_filled _ _) (chain_filled _ _) found
    exact Option.isSome_iff_exists.mpr ⟨_, held⟩

/-- The submission of an accepted form holds exactly the values of the fields that are shown. -/
theorem submission_holds_shown (admitted : limits.Admits schema) :
    HoldsShown schema.fields values (submission schema.fields values) := by
  have sound := limits.admitted_sound schema admitted
  constructor
  case leaf =>
    exact submission_leaf limits values schema.fields sound
  case group =>
    intro above info description children stands
    exact submission_group_iff limits values schema.fields sound above children info description
      stands
  case filled =>
    intro above info description children value stands found
    rw [get_path_at _ above _ stands sound.named] at found
    obtain ⟨_, entries, same, filled⟩ := kept_group_at values info description children above _
      stands sound.distinct values value found
    exact ⟨_, same, filled, kept_keys values entries children
      (distinct_below info description children _ above stands sound.distinct)⟩
  case known =>
    exact kept_keys values values schema.fields sound.distinct

end Submissions

section Travel

/-- The country is asked for at home only, and the address for one country only. -/
def travelForm : Json :=
  .obj [("fields", .arr [
      .obj [("id", .str "abroad"), ("label", .str "Abroad"), ("type", .str "checkbox")],
      .obj [("id", .str "country"), ("label", .str "Country"), ("type", .str "text"),
        ("visibility", .obj [("conditions", .arr [.obj [("field", .str "abroad"),
          ("operator", .str "equals"), ("value", .bool false)]])])],
      .obj [("fields", .arr [
          .obj [("id", .str "city"), ("label", .str "City"), ("type", .str "text")]]),
        ("id", .str "address"), ("label", .str "Address"), ("type", .str "group"),
        ("visibility", .obj [("conditions", .arr [.obj [("field", .str "country"),
          ("operator", .str "equals"), ("value", .str "BG")]])])]]),
    ("title", .str "Travel")]

def travelInfo (id label : String) (visibility : Option VisibilityRule) : FieldInfo :=
  { id, label, placeholder := none, default := none, disabled := none, visibility
    validations := none, integration := none }

def abroadInfo : FieldInfo := travelInfo "abroad" "Abroad" none

def countryInfo : FieldInfo :=
  travelInfo "country" "Country" (some ⟨[⟨"abroad", .equals, .flag false⟩]⟩)

def addressInfo : FieldInfo :=
  travelInfo "address" "Address" (some ⟨[⟨"country", .equals, .text "BG"⟩]⟩)

def cityInfo : FieldInfo := travelInfo "city" "City" none

def travelAddress : Field := .group addressInfo none [.leaf cityInfo (.text none)]

def travelSchema : FormSchema where
  title := "Travel"
  description := none
  fields := [.leaf abroadInfo .checkbox, .leaf countryInfo (.text none), travelAddress]
  integrations := []

theorem travel_admitted : SchemaLimits.standard.Admits travelSchema :=
  SchemaLimits.admits_of_read .standard travelSchema travelForm (by decide +kernel)
    (by decide +kernel) rfl

/-- The country was filled in before the journey led abroad. -/
def travelValues : FormValues :=
  [("abroad", .flag true), ("address", .group [("city", .text "Sofia")]), ("country", .text "BG")]

theorem travel_submission :
    (submission travelSchema.fields travelValues).getPath "country" = none ∧
      (submission travelSchema.fields travelValues).getPath "address.city" =
        some (.text "Sofia") := by
  have holds := submission_holds_shown .standard travelSchema travelValues travel_admitted
  have country : Stands (.leaf countryInfo (.text none)) [] travelSchema.fields :=
    .here _ (by simp [travelSchema])
  have city : Stands (.leaf cityInfo (.text none)) [travelAddress] travelSchema.fields :=
    .inside _ _ _ _ _ (by simp [travelSchema, travelAddress]) (.here _ (by simp))
  have hidden := holds.leaf _ _ _ country
  have shown := holds.leaf _ _ _ city
  rw [if_neg (by decide)] at hidden
  rw [if_pos (by decide)] at shown
  exact ⟨hidden, shown⟩

end Travel

end FormEngine.Field
