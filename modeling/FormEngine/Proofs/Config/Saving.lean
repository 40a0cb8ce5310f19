import FormEngine.Proofs.Config.Checked
import FormEngine.Proofs.Form.Defaults
import FormEngine.Proofs.Schema.Admission
import FormEngine.Proofs.Store.Persistence

/-!
Whether initial values can be saved. A configuration bounds how deep the groups of a form nest, and
saving bounds how deep the groups of values nest. The second bound counts the root as a group and
the first does not, so the two miss each other by one: the values of a form that nests groups as
deep as any configuration allows are refused when a leaf with a default stands that deep.
-/

namespace FormEngine

namespace AutoSave

theorem skip_reason_shape (error : PersistError) :
    skipReason error = skipReason .invalidShape ↔ error = .invalidShape := by
  cases error with
  | invalidShape => simp
  | tooLarge limit size => simp [skipReason]
  | store failure =>
      simp only [skipReason, reduceCtorEq, iff_false]
      intro same
      have heads := congrArg (fun text => text.toList.head?) same
      simp at heads

theorem snapshot_shape_iff {Store : Type} (operations : StoreOperations Store) (store : Store)
    (key : String) (values : FormValues) (limit : Nat) :
    saveSnapshot operations values store key limit =
        (store, .skipped key (skipReason .invalidShape), false) ↔
      FormValues.hasShape values.toJson = false := by
  rw [← Persistence.persist_shape_iff operations store key values.toJson limit]
  unfold saveSnapshot
  cases saved : Persistence.persist operations store key values.toJson limit with
  | ok _ => simp
  | error error => simp [skip_reason_shape]

end AutoSave

namespace Config

open FormEngine.Field (Stands defaultValues)

theorem group_depth_checked (config : Config) (checked : config.check = .ok ()) :
    config.limits.maxGroupDepth ≤ groupDepthCeiling := by
  have limits := ((check_ok_iff config).mp checked).1
  exact ((limits_ok_iff config.limits).mp limits).2.1.2

/-- A leaf with a default stands below as many groups as a configuration can allow. -/
def DefaultAtCeiling (fields : List Field) : Prop :=
  ∃ above info kind, Stands (.leaf info kind) above fields ∧ info.default.isSome ∧
    above.length = groupDepthCeiling

-- The root is a group for the shape and none for the depth of a form.
theorem defaults_refused_iff (limits : SchemaLimits)
    (within : limits.maxGroupDepth ≤ groupDepthCeiling) (fields : List Field)
    (sound : limits.Sound fields) :
    FormValues.hasShape (defaultValues fields).toJson = false ↔ DefaultAtCeiling fields := by
  have bound := Field.defaults_nesting_bound fields sound.distinct (groupDepthCeiling - 1)
  have shaped := FormValues.has_shape_to_json (defaultValues fields)
  simp only [FormValues.maxNesting, groupDepthCeiling] at bound shaped within
  rw [← Bool.not_eq_true, shaped]
  constructor
  · intro deep
    refine Classical.byContradiction fun absent => deep (Nat.lt_succ_of_le (bound.mpr ?_))
    intro above info kind stands default
    have standing := Field.stands_depth _ above fields stands
    have shallow := sound.shallow
    have short : above.length ≠ groupDepthCeiling :=
      fun same => absent ⟨above, info, kind, stands, default, same⟩
    unfold groupDepthCeiling at short
    omega
  · rintro ⟨above, info, kind, stands, default, same⟩ room
    have short := bound.mp (Nat.le_of_lt_succ room) above info kind stands default
    unfold groupDepthCeiling at same
    omega

section Saved

variable (config : Config) (schema : FormSchema)

/-- The initial values of an admitted form are refused for their shape, by the check itself, by
saving and by the snapshots of autosaving, only for a default as deep as groups may ever nest. -/
theorem initial_values_refused_iff (checked : config.check = .ok ())
    (admitted : config.schemaLimits.Admits schema) {Store : Type}
    (operations : StoreOperations Store) (store : Store) (key : String) (limit : Nat) :
    let values := defaultValues schema.fields
    (FormValues.hasShape values.toJson = false ↔ DefaultAtCeiling schema.fields) ∧
      (Persistence.persist operations store key values.toJson limit = .error .invalidShape ↔
        DefaultAtCeiling schema.fields) ∧
      (AutoSave.saveSnapshot operations values store key limit =
          (store, .skipped key (AutoSave.skipReason .invalidShape), false) ↔
        DefaultAtCeiling schema.fields) := by
  have sound := config.schemaLimits.admitted_sound schema admitted
  have within := group_depth_checked config checked
  have refused := defaults_refused_iff config.schemaLimits within schema.fields sound
  refine ⟨refused, ?_, ?_⟩
  · exact (Persistence.persist_shape_iff operations store key _ limit).trans refused
  · exact (AutoSave.snapshot_shape_iff operations store key _ limit).trans refused

theorem initial_values_shaped_below_ceiling
    (shallower : config.limits.maxGroupDepth < groupDepthCeiling)
    (admitted : config.schemaLimits.Admits schema) :
    FormValues.hasShape (defaultValues schema.fields).toJson = true := by
  have sound := config.schemaLimits.admitted_sound schema admitted
  have refused :=
    defaults_refused_iff config.schemaLimits (Nat.le_of_lt shallower) schema.fields sound
  rw [← Bool.not_eq_false, refused]
  rintro ⟨above, info, kind, stands, _, same⟩
  have standing := Field.stands_depth _ above schema.fields stands
  have shallow : Field.groupDepthAll schema.fields ≤ config.limits.maxGroupDepth := sound.shallow
  omega

end Saved

section Boxes

/-- A text in as many boxes as asked for, each within the next. -/
def boxedField : Nat → Field
  | 0 => .leaf (boxInfo "leaf" "Leaf" (some (.text "x"))) (.text none)
  | boxes + 1 => .group (boxInfo "box" "Box" none) none [boxedField boxes]
where
  boxInfo (id label : String) (default : Option Scalar) : FieldInfo :=
    { id, label, placeholder := none, default, disabled := none, visibility := none
      validations := none, integration := none }

def boxesAbove : Nat → List Field
  | 0 => []
  | boxes + 1 => boxedField (boxes + 1) :: boxesAbove boxes

def boxedSchema : FormSchema where
  title := "Boxes"
  description := none
  fields := [boxedField groupDepthCeiling]
  integrations := []

def boxedForm : Nat → Json
  | 0 => .obj [("defaultValue", .str "x"), ("id", .str "leaf"), ("label", .str "Leaf"),
      ("type", .str "text")]
  | boxes + 1 => .obj [("fields", .arr [boxedForm boxes]), ("id", .str "box"),
      ("label", .str "Box"), ("type", .str "group")]

def boxedDocument (boxes : Nat) : Json :=
  .obj [("fields", .arr [boxedForm boxes]), ("title", .str "Boxes")]

/-- The standard settings, with groups as deep as they may be. -/
def deepConfig : Config :=
  { Config.standard with
    limits := { LimitSection.standard with maxGroupDepth := groupDepthCeiling } }

theorem boxed_stands (boxes : Nat) :
    Stands (boxedField 0) (boxesAbove boxes) [boxedField boxes] := by
  induction boxes with
  | zero => exact .here _ List.mem_cons_self
  | succ boxes ih => exact .inside _ _ _ _ _ List.mem_cons_self ih

-- The lengths of the quoted names are evaluated once; the rest of a box is counted around them.
theorem boxed_form_length (boxes : Nat) : (boxedForm boxes).text.length = 53 * boxes + 61 := by
  induction boxes with
  | zero => decide +kernel
  | succ boxes ih =>
      have quotes : (["fields", "id", "box", "label", "Box", "type", "group"].map fun name =>
          (Json.quoted name).length) = [8, 4, 5, 7, 5, 6, 7] := by decide +kernel
      simp only [List.map_cons, List.cons.injEq] at quotes
      simp only [boxedForm, Json.text, Json.itemsText, Json.membersText, List.length_append,
        List.length_cons, List.length_nil, quotes, ih]
      omega

theorem boxed_document_length (boxes : Nat) :
    (boxedDocument boxes).text.length = 53 * boxes + 90 := by
  have quotes : (["fields", "title", "Boxes"].map fun name => (Json.quoted name).length) =
      [8, 7, 7] := by decide +kernel
  simp only [List.map_cons, List.cons.injEq] at quotes
  simp only [boxedDocument, Json.text, Json.itemsText, Json.membersText, List.length_append,
    List.length_cons, List.length_nil, quotes, boxed_form_length]
  omega

set_option maxRecDepth 8000 in
theorem boxed_admitted : deepConfig.schemaLimits.Admits boxedSchema :=
  SchemaLimits.admits_of_read _ boxedSchema (boxedDocument groupDepthCeiling)
    (by rw [boxed_document_length]; decide) (by decide +kernel) rfl

theorem boxed_values_refused :
    Persistence.persist MemoryStore.operations .empty "boxes"
      (defaultValues boxedSchema.fields).toJson Persistence.standardLimit =
        .error .invalidShape := by
  have refused := initial_values_refused_iff deepConfig boxedSchema rfl boxed_admitted
    MemoryStore.operations .empty "boxes" Persistence.standardLimit
  refine refused.2.1.mpr ⟨boxesAbove groupDepthCeiling, _, _, boxed_stands _, rfl, ?_⟩
  decide

end Boxes

end Config

end FormEngine
