import FormEngine.Proofs.Schema.Admission
import FormEngine.Proofs.Values.Writes
import FormEngine.Schema.Outline

/-!
Positions of fields, and the paths that lead to them. A position gives the number of the field in
each list on the way down, so no two fields share one, however alike they are. In an accepted form
no two positions share a path either: a path splits into the ids on the way down, and ids differ in
every list. The same ids lead down a tree of values.
-/

namespace FormEngine

namespace FormValues

/-- What is found by going down id by id; every step needs a group that has the id. -/
def follow (ids : List String) (values : FormValues) : Option FormValue :=
  ids.foldlM (fun held id => held.asGroup.bind (Keyed.find? id)) (.group values)

theorem within_follow (ids : List String) (value : FormValue) :
    within ids value = ids.foldlM (fun held id => held.asGroup.bind (Keyed.find? id)) value := by
  induction ids generalizing value with
  | nil => rfl
  | cons id rest ih =>
      cases value with
      | group entries =>
          have first : getAt (id :: rest) entries = (getAt [id] entries).bind (within rest) :=
            get_at_append [id] rest entries (by simp)
          rw [within, first, List.foldlM_cons, funext ih]
          rfl
      | _ => rfl

theorem get_at_follow (ids : List String) (filled : ids ≠ []) (values : FormValues) :
    getAt ids values = values.follow ids := by
  cases ids with
  | nil => exact absurd rfl filled
  | cons id rest => exact within_follow (id :: rest) (.group values)

-- The first step that fails is where the ids part.
theorem follow_lost (ids : List String) (values : FormValues) :
    values.follow ids = none ↔
      ∃ front id rest held, ids = front ++ id :: rest ∧ values.follow front = some held ∧
        ∀ entries, held = .group entries → Keyed.find? id entries = none := by
  unfold follow
  generalize FormValue.group values = start
  induction ids generalizing start with
  | nil => simp
  | cons id rest ih =>
      rw [List.foldlM_cons, Option.bind_eq_bind]
      cases step : start.asGroup.bind (Keyed.find? id) with
      | none =>
          simp only [Option.bind_none, true_iff]
          refine ⟨[], id, rest, start, rfl, rfl, ?_⟩
          rintro entries rfl
          exact step
      | some next =>
          rw [Option.bind_some, ih next]
          constructor
          · rintro ⟨front, last, back, held, rfl, found, lost⟩
            exact ⟨id :: front, last, back, held, rfl, by simp [step, found], lost⟩
          · rintro ⟨front, last, back, held, joined, found, lost⟩
            cases front with
            | nil =>
                obtain ⟨rfl, rfl⟩ := List.cons.inj joined
                obtain rfl : start = held := by simpa using found
                cases start with
                | group entries =>
                    rw [FormValue.asGroup, Option.bind_some, lost entries rfl] at step
                    cases step
                | _ => cases step
            | cons first front =>
                obtain ⟨rfl, rfl⟩ := List.cons.inj joined
                exact ⟨front, last, back, held, rfl, by simpa [step] using found, lost⟩

end FormValues

namespace Field

/-- The field at a position, with the groups above it, the outermost first. -/
def placeAt? : List Nat → List Field → Option (List Field × Field)
  | [], _ => none
  | [index], fields => fields[index]?.map fun field => ([], field)
  | index :: next :: rest, fields =>
      match fields[index]? with
      | some (.group info description children) =>
          (placeAt? (next :: rest) children).map fun (above, field) =>
            (.group info description children :: above, field)
      | _ => none

def pathAt? (position : List Nat) (fields : List Field) : Option String :=
  (placeAt? position fields).map fun (above, field) => path above field

/-- The ids from the root down to the field at a position. -/
def idsAt? (position : List Nat) (fields : List Field) : Option (List String) :=
  (placeAt? position fields).map fun (above, field) => chain above field

/-- The position leads to the field through the groups above it. -/
inductive Lies (field : Field) : (position : List Nat) → (above fields : List Field) → Prop where
  | here (index : Nat) (fields : List Field) (found : fields[index]? = some field) :
      Lies field [index] [] fields
  | inside (index : Nat) (rest : List Nat) (info : FieldInfo) (description : Option String)
      (children fields above : List Field)
      (found : fields[index]? = some (.group info description children))
      (deeper : Lies field rest above children) :
      Lies field (index :: rest) (.group info description children :: above) fields

section Places

variable (field : Field) (position : List Nat) (above fields : List Field)

theorem place_of_lies (lies : Lies field position above fields) :
    placeAt? position fields = some (above, field) := by
  induction lies with
  | here index fields found => simp [placeAt?, found]
  | inside index rest info description children fields above found deeper ih =>
      cases rest with
      | nil => cases ih
      | cons next others => simp [placeAt?, found, ih]

theorem lies_of_place (place : placeAt? position fields = some (above, field)) :
    Lies field position above fields := by
  induction position generalizing fields above with
  | nil => cases place
  | cons index rest ih =>
      cases rest with
      | nil =>
          obtain ⟨last, found, same⟩ := Option.map_eq_some_iff.mp place
          cases same
          exact .here index fields found
      | cons next others =>
          rw [placeAt?] at place
          split at place
          · rename_i info description children found
            obtain ⟨⟨inner, last⟩, deeper, same⟩ := Option.map_eq_some_iff.mp place
            cases same
            exact .inside index _ info description children fields inner found
              (ih inner children deeper)
          · cases place

theorem lies_stands (lies : Lies field position above fields) : Stands field above fields := by
  induction lies with
  | here index fields found => exact .here fields (List.mem_of_getElem? found)
  | inside index rest info description children fields above found _ ih =>
      exact .inside info description children fields above (List.mem_of_getElem? found) ih

theorem stands_lies (stands : Stands field above fields) :
    ∃ position, Lies field position above fields := by
  induction stands with
  | here fields present =>
      obtain ⟨index, found⟩ := List.getElem?_of_mem present
      exact ⟨[index], .here index fields found⟩
  | inside info description children fields above present _ ih =>
      obtain ⟨index, found⟩ := List.getElem?_of_mem present
      obtain ⟨rest, deeper⟩ := ih
      exact ⟨index :: rest, .inside index rest info description children fields above found deeper⟩

end Places

section Outlined

variable (fields : List Field)

theorem mem_outline_all (parent : String) (entry : String × Field) :
    entry ∈ outlineAll parent fields ↔ ∃ field ∈ fields, entry ∈ outline parent field := by
  induction fields with
  | nil => simp [outlineAll]
  | cons field rest ih => simp [outlineAll, ih]

theorem outline_of_stands (field : Field) (above fields : List Field)
    (stands : Stands field above fields) (parent : String) :
    (Path.through parent (chain above field), field) ∈ outlineAll parent fields := by
  induction stands generalizing parent with
  | here fields present =>
      refine (mem_outline_all fields parent _).mpr ⟨field, present, ?_⟩
      cases field <;> exact List.mem_cons_self
  | inside info description children fields above present _ ih =>
      refine (mem_outline_all fields parent _).mpr ⟨_, present, ?_⟩
      exact List.mem_cons_of_mem _ (ih (Path.child parent info.id))

theorem stands_of_outline (fields : List Field) (parent path : String) (field : Field)
    (listed : (path, field) ∈ outlineAll parent fields) :
    ∃ above, Stands field above fields ∧ path = Path.through parent (chain above field) := by
  obtain ⟨outer, present, inside⟩ := (mem_outline_all fields parent _).mp listed
  cases outer with
  | leaf info kind =>
      obtain ⟨rfl, rfl⟩ := Prod.mk.inj (List.mem_singleton.mp inside)
      exact ⟨[], .here fields present, rfl⟩
  | group info description children =>
      rcases List.mem_cons.mp inside with here | deeper
      · obtain ⟨rfl, rfl⟩ := Prod.mk.inj here
        exact ⟨[], .here fields present, rfl⟩
      · obtain ⟨above, stands, rfl⟩ :=
          stands_of_outline children (Path.child parent info.id) path field deeper
        exact ⟨_, .inside info description children fields above present stands, rfl⟩
termination_by groupDepthAll fields
decreasing_by exact depth_children info description children fields present

end Outlined

section Unique

theorem same_index (fields : List Field) (distinct : Distinct fields) (first second : Nat)
    (left right : Field) (here : fields[first]? = some left) (there : fields[second]? = some right)
    (same : left.id = right.id) : first = second := by
  have within : first < (fields.map id).length := by
    simpa using (List.getElem?_eq_some_iff.mp here).1
  refine (List.getElem?_inj within distinct.1).mp ?_
  simp [here, there, same]

-- The ids fix the way down: in each list the next of them tells which field comes next.
theorem position_unique (left right : Field) (first second : List Nat)
    (above beside fields : List Field) (distinct : Distinct fields)
    (here : Lies left first above fields) (there : Lies right second beside fields)
    (same : chain above left = chain beside right) : first = second := by
  induction here generalizing second beside with
  | here index fields found =>
      cases there with
      | here other _ met =>
          rw [same_index fields distinct index other left right found met (by simpa using same)]
      | inside other others note remark leaves _ lower met further =>
          exact absurd (List.cons.inj same).2.symm (chain_filled lower right)
  | inside index rest info description children fields inner found deeper ih =>
      cases there with
      | here other _ met => exact absurd (List.cons.inj same).2 (chain_filled inner left)
      | inside other others note remark leaves _ lower met further =>
          obtain ⟨id, tail⟩ := List.cons.inj same
          obtain rfl := same_index fields distinct index other _ _ found met id
          rw [found] at met
          cases met
          have below := distinct_children info description children fields
            (List.mem_of_getElem? found) distinct
          rw [ih others lower below further tail]

end Unique

/-- Every path belongs to one position; it is made of the ids on the way down, and leads down any
tree of values id by id. -/
structure PathsIdentify (fields : List Field) : Prop where
  unique : ∀ first second path, pathAt? first fields = some path →
    pathAt? second fields = some path → first = second
  split : ∀ position, (pathAt? position fields).map Path.segments = idsAt? position fields
  followed : ∀ position path ids, pathAt? position fields = some path →
    idsAt? position fields = some ids → ∀ values : FormValues,
      values.getPath path = values.follow ids ∧
        (values.getPath path = none ↔ ∃ front id rest held, ids = front ++ id :: rest ∧
          values.follow front = some held ∧
          ∀ entries, held = .group entries → Keyed.find? id entries = none)
  outlined : ∀ path field, (path, field) ∈ outlineAll "" fields ↔
    ∃ position above, placeAt? position fields = some (above, field) ∧
      pathAt? position fields = some path

section Identified

variable (limits : SchemaLimits) (schema : FormSchema)

theorem segments_path (fields above : List Field) (field : Field) (named : NamedAll fields)
    (stands : Stands field above fields) : Path.segments (path above field) = chain above field :=
  Path.segments_from_root _ (chain_filled above field)
    (stands_named field above fields stands named)

/-- The paths of an accepted form identify its fields. -/
theorem paths_identify (admitted : limits.Admits schema) : PathsIdentify schema.fields := by
  have sound := limits.admitted_sound schema admitted
  have segments : ∀ position above field, placeAt? position schema.fields = some (above, field) →
      Path.segments (path above field) = chain above field := by
    intro position above field place
    have lies := lies_of_place field position above schema.fields place
    exact segments_path _ above field sound.named (lies_stands field position above _ lies)
  constructor
  case unique =>
    intro first second text here there
    obtain ⟨⟨above, left⟩, place, rfl⟩ := Option.map_eq_some_iff.mp here
    obtain ⟨⟨beside, right⟩, other, same⟩ := Option.map_eq_some_iff.mp there
    have ids := congrArg Path.segments same
    dsimp only at ids
    rw [segments second beside right other, segments first above left place] at ids
    exact position_unique left right first second above beside schema.fields sound.distinct
      (lies_of_place left first above _ place) (lies_of_place right second beside _ other) ids.symm
  case split =>
    intro position
    unfold pathAt? idsAt?
    cases place : placeAt? position schema.fields with
    | none => rfl
    | some found => exact congrArg some (segments position found.1 found.2 place)
  case followed =>
    intro position text ids here there values
    obtain ⟨⟨above, field⟩, place, rfl⟩ := Option.map_eq_some_iff.mp here
    obtain rfl : chain above field = ids := by simpa [idsAt?, place] using there
    have led : values.getPath (path above field) = values.follow (chain above field) := by
      rw [FormValues.getPath, segments position above field place]
      exact FormValues.get_at_follow _ (chain_filled above field) values
    refine ⟨led, ?_⟩
    rw [led]
    exact FormValues.follow_lost _ values
  case outlined =>
    intro text field
    constructor
    · intro listed
      obtain ⟨above, stands, rfl⟩ := stands_of_outline schema.fields "" text field listed
      obtain ⟨position, lies⟩ := stands_lies field above schema.fields stands
      have place := place_of_lies field position above schema.fields lies
      exact ⟨position, above, place, by rw [pathAt?, place]; rfl⟩
    · rintro ⟨position, above, place, here⟩
      obtain rfl : path above field = text := by simpa [pathAt?, place] using here
      have lies := lies_of_place field position above schema.fields place
      exact outline_of_stands field above schema.fields (lies_stands field position above _ lies) ""

end Identified

section Addresses

/-- Two groups whose fields have the same ids; only one leaf has a default. -/
def addressForm : Json :=
  .obj [("fields", .arr [
      .obj [("fields", .arr [
          .obj [("id", .str "city"), ("label", .str "City"), ("type", .str "text")]]),
        ("id", .str "home"), ("label", .str "Home"), ("type", .str "group")],
      .obj [("fields", .arr [
          .obj [("id", .str "name"), ("label", .str "Name"), ("type", .str "text")],
          .obj [("fields", .arr [
              .obj [("defaultValue", .str "Ruse"), ("id", .str "city"), ("label", .str "City"),
                ("type", .str "text")]]),
            ("id", .str "home"), ("label", .str "Home"), ("type", .str "group")]]),
        ("id", .str "work"), ("label", .str "Work"), ("type", .str "group")]]),
    ("title", .str "Addresses")]

def entryInfo (id label : String) (default : Option Scalar) : FieldInfo :=
  { id, label, placeholder := none, default, disabled := none, visibility := none
    validations := none, integration := none }

def cityField (default : Option Scalar) : Field :=
  .leaf (entryInfo "city" "City" default) (.text none)

def homeGroup (default : Option Scalar) : Field :=
  .group (entryInfo "home" "Home" none) none [cityField default]

def workGroup : Field :=
  .group (entryInfo "work" "Work" none) none
    [.leaf (entryInfo "name" "Name" none) (.text none), homeGroup (some (.text "Ruse"))]

def addressSchema : FormSchema where
  title := "Addresses"
  description := none
  fields := [homeGroup none, workGroup]
  integrations := []

theorem address_admitted : SchemaLimits.standard.Admits addressSchema :=
  SchemaLimits.admits_of_read .standard addressSchema addressForm (by decide +kernel)
    (by decide +kernel) rfl

theorem city_identified :
    (∀ position, pathAt? position addressSchema.fields = some "work.home.city" →
        position = [1, 1, 0]) ∧
      Path.segments "work.home.city" = ["work", "home", "city"] ∧
      FormValues.getPath "work.home.city" [("work", .group [("home", .text "x")])] = none := by
  have identify := paths_identify .standard addressSchema address_admitted
  have here : pathAt? [1, 1, 0] addressSchema.fields = some "work.home.city" := by decide
  have ids : idsAt? [1, 1, 0] addressSchema.fields = some ["work", "home", "city"] := by decide
  refine ⟨?_, ?_, ?_⟩
  · intro position there
    exact identify.unique position [1, 1, 0] _ there here
  · have split := identify.split [1, 1, 0]
    rw [here, ids] at split
    exact Option.some.inj split
  · refine (identify.followed _ _ _ here ids _).2.mpr ⟨["work", "home"], "city", [], .text "x", rfl,
      rfl, ?_⟩
    intro entries same
    cases same

end Addresses

end Field

end FormEngine
