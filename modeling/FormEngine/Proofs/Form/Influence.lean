import FormEngine.Proofs.Form.Submission
import FormEngine.Proofs.Values.Writes

/-!
What a submission depends on: the values that the rules of the form look at, and the values of the
leaves that are shown. Whatever else differs between two trees of values, down to which groups there
are, their submissions are the same.
-/

namespace FormEngine.Field

/-- The trees hold the same where a rule of the form looks, and the same for every leaf that is shown
among the values. -/
structure AlikeWhereShown (fields : List Field) (values others : FormValues) : Prop where
  conditions : ∀ above field rule condition, Stands field above fields →
    field.info.visibility = some rule → condition ∈ rule.conditions →
    values.getPath condition.field = others.getPath condition.field
  leaves : ∀ above info kind, Stands (.leaf info kind) above fields →
    Shown values above (.leaf info kind) →
    values.getPath (path above (.leaf info kind)) = others.getPath (path above (.leaf info kind))

section Nothing

variable (root : FormValues)

theorem keep_visible_nothing (kept : FormValues) (field : Field) :
    keepVisible root [] kept field = kept := by
  cases field with
  | leaf info kind => simp [keepVisible, Keyed.find?]
  | group info description children => simp [keepVisible, Keyed.find?]

theorem kept_all_nothing (fields : List Field) : keptAll root [] fields = [] := by
  unfold keptAll
  induction fields with
  | nil => rfl
  | cons field rest ih => rw [keepVisibleAll, keep_visible_nothing, ih]

/-- What is not a group counts as a group with nothing in it. -/
theorem kept_of_group (level : FormValues) (info : FieldInfo) (description : Option String)
    (children : List Field) :
    keptOf root level (.group info description children) =
      let nested := keptAll root (FormValues.entriesOf (Keyed.find? info.id level)) children
      if isVisible info.visibility root.source ∧ nested ≠ [] then some (.group nested) else none := by
  by_cases visible : isVisible info.visibility root.source = true
  · cases found : Keyed.find? info.id level with
    | none => simp [keptOf, visible, found, FormValues.entriesOf, kept_all_nothing]
    | some value =>
        cases value with
        | group entries => simp [keptOf, visible, found, FormValues.entriesOf]
        | _ => simp [keptOf, visible, found, FormValues.entriesOf, kept_all_nothing]
  · simp [keptOf, visible]

end Nothing

section Runs

variable (root other : FormValues)

/-- Where the same fields are visible, what is kept hangs on the leaves that are shown only. -/
theorem kept_all_alike (fields : List Field) (distinct : Distinct fields)
    (visible : ∀ above field, Stands field above fields →
      isVisible field.info.visibility other.source = isVisible field.info.visibility root.source)
    (level next : FormValues)
    (leaves : ∀ above info kind, Stands (.leaf info kind) above fields →
      Shown root above (.leaf info kind) →
      FormValues.getAt (chain above (.leaf info kind)) level =
        FormValues.getAt (chain above (.leaf info kind)) next) :
    keptAll other next fields = keptAll root level fields := by
  apply kept_all_congr root level fields distinct other next
  intro field present
  cases field with
  | leaf info kind =>
      have same : isVisible info.visibility other.source = isVisible info.visibility root.source :=
        visible [] _ (.here fields present)
      simp only [keptOf, same]
      by_cases shown : isVisible info.visibility root.source = true
      · have held := leaves [] info kind (.here fields present) ((shown_here root _).mpr shown)
        have found : Keyed.find? info.id level = Keyed.find? info.id next := held
        rw [found]
      · rw [if_neg shown, if_neg shown]
  | group info description children =>
      have same : isVisible info.visibility other.source = isVisible info.visibility root.source :=
        visible [] _ (.here fields present)
      rw [kept_of_group, kept_of_group, same]
      by_cases shown : isVisible info.visibility root.source = true
      · have deeper := fun above field (stands : Stands field above children) =>
          Stands.inside info description children fields above present stands
        have nested : ∀ above leaf kind, Stands (.leaf leaf kind) above children →
            Shown root above (.leaf leaf kind) →
            FormValues.getAt (chain above (.leaf leaf kind))
                (FormValues.entriesOf (Keyed.find? info.id level)) =
              FormValues.getAt (chain above (.leaf leaf kind))
                (FormValues.entriesOf (Keyed.find? info.id next)) := by
          intro above leaf kind stands seen
          rw [FormValues.entries_within _ _ (chain_filled _ _),
            FormValues.entries_within _ _ (chain_filled _ _)]
          apply leaves _ leaf kind (deeper above _ stands)
          exact (shown_inside root above _ info description children).mpr ⟨shown, seen⟩
        have inner := kept_all_alike children
          (distinct_children info description children fields present distinct)
          (fun above field stands => visible _ field (deeper above field stands)) _ _ nested
        rw [inner]
      · simp [shown]
termination_by groupDepthAll fields
decreasing_by exact depth_children info description children fields present

end Runs

section Submissions

variable (limits : SchemaLimits) (schema : FormSchema) (values others : FormValues)

theorem visible_alike (fields : List Field) (alike : AlikeWhereShown fields values others)
    (above : List Field) (field : Field) (stands : Stands field above fields) :
    isVisible field.info.visibility others.source =
      isVisible field.info.visibility values.source := by
  cases rule : field.info.visibility with
  | none => rfl
  | some ruled =>
      apply rule_holds_congr ruled
      intro condition listed
      exact (alike.conditions above field ruled condition stands rule listed).symm

/-- Hidden values, and values that are no field of the form, have no influence on a submission unless
a rule looks at them. -/
theorem hidden_without_influence (admitted : limits.Admits schema)
    (alike : AlikeWhereShown schema.fields values others) :
    submission schema.fields values = submission schema.fields others := by
  have sound := limits.admitted_sound schema admitted
  refine (kept_all_alike values others schema.fields sound.distinct
    (visible_alike values others schema.fields alike) values others ?_).symm
  intro above info kind stands shown
  have same := alike.leaves above info kind stands shown
  rwa [get_path_at _ above _ stands sound.named, get_path_at _ above _ stands sound.named] at same

end Submissions

section Travel

/-- A journey to a country that asks for no address, where one was filled in before. -/
def awayValues : FormValues :=
  [("abroad", .flag false), ("address", .group [("city", .text "Sofia")]), ("country", .text "DE")]

/-- The same journey, but the address is no group, and there is a note that no field is for. -/
def strayValues : FormValues :=
  [("abroad", .flag false), ("address", .text "none"), ("country", .text "DE"),
    ("note", .group [("to", .text "self")])]

theorem travel_places (above : List Field) (field : Field)
    (stands : Stands field above travelSchema.fields) :
    (above = [] ∧ (field = .leaf abroadInfo .checkbox ∨ field = .leaf countryInfo (.text none) ∨
      field = travelAddress)) ∨
      (above = [travelAddress] ∧ field = .leaf cityInfo (.text none)) := by
  cases stands with
  | here _ present => exact Or.inl ⟨rfl, by simpa [travelSchema] using present⟩
  | inside info description children _ above present deeper =>
      obtain ⟨rfl, rfl, rfl⟩ : info = addressInfo ∧ description = none ∧
          children = [.leaf cityInfo (.text none)] := by
        simpa [travelSchema, travelAddress] using present
      cases deeper with
      | here _ only => exact Or.inr ⟨rfl, List.mem_singleton.mp only⟩
      | inside _ _ _ _ _ none _ => simp at none

theorem away_alike : AlikeWhereShown travelSchema.fields awayValues strayValues := by
  constructor
  case conditions =>
    intro above field rule condition stands ruled listed
    rcases travel_places above field stands with ⟨_, rfl | rfl | rfl⟩ | ⟨_, rfl⟩
    · simp [Field.info, abroadInfo, travelInfo] at ruled
    · obtain rfl := Option.some.inj ruled
      obtain rfl := List.mem_singleton.mp listed
      decide +kernel
    · obtain rfl := Option.some.inj ruled
      obtain rfl := List.mem_singleton.mp listed
      decide +kernel
    · simp [Field.info, cityInfo, travelInfo] at ruled
  case leaves =>
    intro above info kind stands shown
    rcases travel_places above _ stands with ⟨rfl, same | same | same⟩ | ⟨rfl, same⟩
    · rw [same]
      decide +kernel
    · rw [same]
      decide +kernel
    · simp [travelAddress] at same
    · rw [same] at shown
      exact absurd shown (by decide +kernel)

theorem stray_without_influence :
    submission travelSchema.fields awayValues = submission travelSchema.fields strayValues ∧
      submission travelSchema.fields strayValues =
        [("abroad", .flag false), ("country", .text "DE")] :=
  ⟨hidden_without_influence .standard travelSchema awayValues strayValues travel_admitted away_alike,
    by decide +kernel⟩

end Travel

end FormEngine.Field
