import Mathlib.Data.List.Nodup
import FormEngine.Proofs.Schema.Siblings
import FormEngine.Proofs.Values.Path

/-!
Where fields stand in a form. A field is found by going down from the fields of the form through the
groups above it; the ids on the way make up its path. Ids without dots let a path be followed id by
id, and different ids in every list leave one place for each path.
-/

namespace FormEngine.Field

/-- The field is one of these fields, or lies below the groups above it, the outermost first. -/
inductive Stands (field : Field) : (above fields : List Field) → Prop where
  | here (fields : List Field) (present : field ∈ fields) : Stands field [] fields
  | inside (info : FieldInfo) (description : Option String) (children fields above : List Field)
      (present : .group info description children ∈ fields)
      (deeper : Stands field above children) :
      Stands field (.group info description children :: above) fields

/-- The ids from the root down to the field. -/
def chain (above : List Field) (field : Field) : List String := above.map id ++ [field.id]

def path (above : List Field) (field : Field) : String := Path.through "" (chain above field)

mutual
/-- Every id can be a segment of a path. -/
def Named : Field → Prop
  | .leaf info _ => Path.IsSegment info.id
  | .group info _ fields => Path.IsSegment info.id ∧ NamedAll fields

def NamedAll : List Field → Prop
  | [] => True
  | field :: rest => Named field ∧ NamedAll rest
end

section Members

variable (fields : List Field) (field : Field) (present : field ∈ fields)

include present

theorem named_member (named : NamedAll fields) : field.Named := by
  induction fields with
  | nil => simp at present
  | cons first rest ih =>
      rcases List.mem_cons.mp present with rfl | later
      · exact named.1
      · exact ih later named.2

theorem distinct_member (distinct : DistinctBelowAll fields) : field.DistinctBelow := by
  induction fields with
  | nil => simp at present
  | cons first rest ih =>
      rcases List.mem_cons.mp present with rfl | later
      · exact distinct.1
      · exact ih later distinct.2

theorem depth_member : field.groupDepth ≤ groupDepthAll fields := by
  induction fields with
  | nil => simp at present
  | cons first rest ih =>
      rcases List.mem_cons.mp present with rfl | later
      · exact Nat.le_max_left _ _
      · exact Nat.le_trans (ih later) (Nat.le_max_right _ _)

end Members

@[simp]
theorem leaf_id (info : FieldInfo) (kind : LeafKind) : (leaf info kind).id = info.id := rfl

@[simp]
theorem group_id (info : FieldInfo) (description : Option String) (children : List Field) :
    (group info description children).id = info.id := rfl

theorem named_id (field : Field) (named : field.Named) : Path.IsSegment field.id := by
  cases field with
  | leaf info kind => exact named
  | group info description children => exact named.1

@[simp]
theorem chain_here (field : Field) : chain [] field = [field.id] := rfl

@[simp]
theorem chain_inside (info : FieldInfo) (description : Option String) (children : List Field)
    (above : List Field) (field : Field) :
    chain (.group info description children :: above) field = info.id :: chain above field := rfl

@[simp]
theorem chain_filled (above : List Field) (field : Field) : chain above field ≠ [] := by
  simp [chain]

theorem chain_append (above below : List Field) (group field : Field) :
    chain (above ++ group :: below) field = chain above group ++ chain below field := by
  simp [chain]

section Groups

variable (info : FieldInfo) (description : Option String) (children fields : List Field)
  (present : .group info description children ∈ fields)

include present

theorem named_children (named : NamedAll fields) : NamedAll children :=
  (named_member fields _ present named).2

theorem distinct_children (distinct : Distinct fields) : Distinct children :=
  distinct_member fields _ present distinct.2

theorem depth_children : groupDepthAll children < groupDepthAll fields :=
  depth_member fields _ present

end Groups

theorem stands_append (info : FieldInfo) (description : Option String)
    (children fields above below : List Field) (field : Field)
    (outer : Stands (.group info description children) above fields)
    (inner : Stands field below children) :
    Stands field (above ++ .group info description children :: below) fields := by
  induction outer with
  | here fields present => exact .inside info description children fields below present inner
  | inside info description middle fields above present _ ih =>
      exact .inside info description middle fields _ present ih

theorem distinct_below (info : FieldInfo) (description : Option String)
    (children fields above : List Field)
    (stands : Stands (.group info description children) above fields)
    (distinct : Distinct fields) : Distinct children := by
  induction stands with
  | here fields present => exact distinct_children info description children fields present distinct
  | inside outer note middle fields above present _ ih =>
      exact ih (distinct_children outer note middle fields present distinct)

section Unique

variable (first second : Field) (beside fields : List Field) (distinct : Distinct fields)

include distinct

theorem same_id (here : first ∈ fields) (there : second ∈ fields) (same : first.id = second.id) :
    first = second :=
  List.inj_on_of_nodup_map distinct.1 here there same

/-- Different ids in every list leave one field for the ids that lead to it. -/
theorem stands_unique (above : List Field) (left : Stands first above fields)
    (right : Stands second beside fields) (same : chain above first = chain beside second) :
    first = second := by
  induction left generalizing beside with
  | here fields present =>
      cases right with
      | here _ listed =>
          exact same_id first second fields distinct present listed (by simpa using same)
      | inside info description children _ below listed deeper =>
          exact absurd (List.cons.inj same).2.symm (chain_filled below second)
  | inside info description children fields above present deeper ih =>
      cases right with
      | here _ listed => exact absurd (List.cons.inj same).2 (chain_filled above first)
      | inside other note others _ below listed further =>
          obtain ⟨id, rest⟩ := List.cons.inj same
          cases same_id (.group info description children) (.group other note others) fields distinct
            present listed id
          exact ih below (distinct_children info description children fields present distinct) further
            rest

end Unique

section Standing

variable (field : Field) (above fields : List Field) (stands : Stands field above fields)

include stands

theorem stands_named (named : NamedAll fields) : ∀ id ∈ chain above field, Path.IsSegment id := by
  induction stands with
  | here fields present =>
      simpa using named_id field (named_member fields field present named)
  | inside info description children fields above present deeper ih =>
      have outer := named_id _ (named_member fields _ present named)
      have inner := ih (named_children info description children fields present named)
      rw [chain_inside]
      exact List.forall_mem_cons.mpr ⟨outer, inner⟩

theorem get_path_at (named : NamedAll fields) (values : FormValues) :
    values.getPath (path above field) = FormValues.getAt (chain above field) values :=
  FormValues.get_path_through _ values (chain_filled above field)
    (stands_named field above fields stands named)

theorem stands_depth : above.length ≤ groupDepthAll fields := by
  induction stands with
  | here fields present => exact Nat.zero_le _
  | inside info description children fields above present deeper ih =>
      have shallower := depth_children info description children fields present
      simp only [List.length_cons]
      omega

end Standing

end FormEngine.Field
