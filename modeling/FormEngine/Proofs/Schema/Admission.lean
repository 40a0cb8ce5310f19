import FormEngine.Proofs.Schema.Acceptance
import FormEngine.Proofs.Schema.Places

/-!
What an accepted form can be relied on for, whichever way it came in: its ids are segments of paths,
the ids of every list differ, and its groups nest no deeper than the limit. The contract gives the
first, and the two checks after reading give the others.
-/

namespace FormEngine

namespace Json

/-- A character takes at most four bytes, so counting characters bounds the size of a document. -/
theorem byte_size_bound (value : Json) : value.byteSize ≤ 4 * value.text.length := by
  unfold byteSize compact
  induction value.text with
  | nil => simp
  | cons char rest ih =>
      have narrow := char.utf8Size_le_four
      rw [String.ofList_cons, String.utf8ByteSize_append, String.utf8ByteSize_singleton,
        List.length_cons]
      omega

end Json

namespace SchemaLimits

/-- A validator with these limits accepts the form, from a text or from a value. -/
def Admits (limits : SchemaLimits) (schema : FormSchema) : Prop :=
  (∃ value, limits.validateValue value = .ok schema) ∨
    ∃ text, limits.validateText text = .ok schema

end SchemaLimits

namespace FormDocument

open Contract (Meets)
open FormSchema

/-- A field keeps its id and, if it is a group, the fields that stand under its first member of that
name. -/
theorem field_made (typed : Bool) (members : List (String × Json)) (field : Field)
    (read : Decode.field typed (.obj members) = .ok field) :
    (∃ info kind, field = .leaf info kind) ∨
      ∃ info description fields, field = .group info description fields ∧
        Decode.childFields members = .ok fields := by
  simp only [Decode.field, bind_ok] at read
  obtain ⟨info, _, type, _, rest⟩ := read
  by_cases group : type = .group
  · simp only [group, ↓reduceIte, bind_ok] at rest
    obtain ⟨description, _, fields, readFields, made⟩ := rest
    cases made
    exact Or.inr ⟨info, description, fields, rfl, readFields⟩
  · simp only [group, ↓reduceIte, bind_ok] at rest
    obtain ⟨kind, _, made⟩ := rest
    cases made
    exact Or.inl ⟨info, kind, rfl⟩

theorem child_fields_member (members : List (String × Json)) (fields : List Field)
    (read : Decode.childFields members = .ok fields) :
    ∃ held, ("fields", held) ∈ members ∧ Decode.fieldList true held = .ok fields := by
  induction members with
  | nil => simp [Decode.childFields, Decode.mismatch] at read
  | cons member rest ih =>
      obtain ⟨name, held⟩ := member
      by_cases same : name = "fields"
      · subst same
        exact ⟨held, by simp, by simpa [Decode.childFields] using read⟩
      · obtain ⟨later, present, readLater⟩ := ih (by simpa [Decode.childFields, same] using read)
        exact ⟨later, List.mem_cons_of_mem _ present, readLater⟩

/-- A list of fields that meets its contract is named when the fields in it are. -/
theorem field_list_named (depth : Nat) (typed : Bool) (value : Json) (fields : List Field)
    (below : ∀ item field, item.nesting < depth →
      Contract.follow definitions depth fieldName item = [] →
      Decode.field typed item = .ok field → field.Named)
    (shallow : value.nesting ≤ depth)
    (meets : Meets (Contract.follow definitions depth) fieldsContract value)
    (read : Decode.fieldList typed value = .ok fields) : Field.NamedAll fields := by
  rw [fieldsContract, meets_list_of] at meets
  obtain ⟨items, rfl, each⟩ := meets
  simp only [Contract.meets_node, List.mem_singleton, forall_eq, Contract.meets_definition] at each
  have shallower : Json.nestingItems items < depth := shallow
  have readItems : Decode.fields typed items = .ok fields := read
  clear read shallow
  induction items generalizing fields with
  | nil =>
      cases readItems
      trivial
  | cons item rest ih =>
      simp only [Decode.fields, bind_ok] at readItems
      obtain ⟨field, readField, others, readOthers, made⟩ := readItems
      cases made
      simp only [Json.nestingItems] at shallower
      obtain ⟨first, later⟩ := List.forall_mem_cons.mp each
      exact ⟨below item field (by omega) first readField, ih others later (by omega) readOthers⟩

-- References are followed level by level, as where the contract is matched with the shape.
theorem field_named (depth : Nat) (typed : Bool) (value : Json) (field : Field)
    (shallow : value.nesting < depth)
    (meets : Contract.follow definitions depth fieldName value = [])
    (read : Decode.field typed value = .ok field) : field.Named := by
  induction depth generalizing typed value field with
  | zero => omega
  | succ depth ih =>
      cases value with
      | obj members =>
          have satisfied : Meets (Contract.follow definitions depth) fieldContract
              (.obj members) := by
            simpa [Contract.follow, definitions, Keyed.find?, Meets] using meets
          obtain ⟨_, known, _⟩ := (meets_field_contract _ members).mp satisfied
          have named : Path.IsSegment field.id := by
            have found : Keyed.find? "id" members = some (.str field.id) :=
              field_id typed (.obj members) field read
            have present := Keyed.find_member "id" (.str field.id) members found
            obtain ⟨contract, listed, meetsId⟩ := known _ present
            have only : contract = .node [.types [.string], .minLength 1, .segment] := by
              simpa [knownAttributes] using listed
            subst only
            obtain ⟨text, same, filled, dotless⟩ := (meets_id _ _).mp meetsId
            cases same
            exact ⟨filled, dotless⟩
          rcases field_made typed members field read with
            ⟨info, kind, rfl⟩ | ⟨info, description, fields, rfl, readFields⟩
          · exact named
          · obtain ⟨held, present, readHeld⟩ := child_fields_member members fields readFields
            obtain ⟨contract, listed, meetsHeld⟩ := known _ present
            have only : contract = fieldsContract := by simpa [knownAttributes] using listed
            subst only
            have nested := Json.nesting_member members "fields" held present
            simp only [Json.nesting] at shallow
            exact ⟨named, field_list_named depth true held fields (ih true) (by omega) meetsHeld
              readHeld⟩
      | _ => simp [Decode.field, Decode.mismatch] at read

theorem form_named (value : Json) (schema : FormSchema) (meets : contractViolations value = [])
    (read : Decode.formSchema value = .ok schema) : Field.NamedAll schema.fields := by
  have satisfied : Meets (Contract.follow definitions (value.nesting + 1)) (.node rootKeywords)
      value := meets
  obtain ⟨members, rfl, _, known⟩ :=
    (meets_closed_record _ _ _ root_sorted value).mp (root_layout ▸ satisfied)
  obtain ⟨_, _, _, readFields, _⟩ := form_parts members schema read
  cases found : Keyed.find? "fields" members with
  | none => simp [Decode.required, found, Decode.mismatch] at readFields
  | some held =>
      simp only [Decode.required, found] at readFields
      have present := Keyed.find_member "fields" held members found
      obtain ⟨contract, listed, meetsHeld⟩ := known _ present
      have only : contract = fieldsContract := by simpa using listed
      subst only
      have nested := Json.nesting_member members "fields" held present
      refine field_list_named _ false held schema.fields ?_ ?_ meetsHeld readFields
      · exact fun item field => field_named _ false item field
      · simp only [Json.nesting]
        omega

end FormDocument

namespace SchemaLimits

variable (limits : SchemaLimits) (schema : FormSchema)

theorem value_accepted (value : Json) (accepted : limits.validateValue value = .ok schema) :
    value.byteSize ≤ limits.maxBytes ∧ value.nesting ≤ maxNesting ∧
      limits.validateRead value = .ok schema := by
  rw [value_stages] at accepted
  split at accepted
  · simp at accepted
  · split at accepted
    · simp at accepted
    · rename_i small flat
      exact ⟨Nat.not_lt.mp small, Nat.not_lt.mp flat, accepted⟩

theorem admits_read (admitted : limits.Admits schema) :
    ∃ value, limits.validateRead value = .ok schema := by
  rcases admitted with ⟨value, verdict⟩ | ⟨text, verdict⟩
  · exact ⟨value, (value_accepted limits schema value verdict).2.2⟩
  · unfold validateText at verdict
    split at verdict
    · simp at verdict
    · split at verdict
      · exact ⟨_, verdict⟩
      · split at verdict <;> simp at verdict

/-- The stages that an accepted document has passed. -/
theorem read_passed (value : Json) (verdict : limits.validateRead value = .ok schema) :
    FormSchema.contractViolations value = [] ∧ Decode.formSchema value = .ok schema ∧
      Field.Distinct schema.fields ∧ Field.groupDepthAll schema.fields ≤ limits.maxGroupDepth := by
  rw [read_stages] at verdict
  split at verdict
  · simp at verdict
  · rename_i satisfied
    split at verdict
    · simp at verdict
    · rename_i read
      split at verdict
      · simp at verdict
      · rename_i different
        split at verdict
        · simp at verdict
        · rename_i shallow
          cases verdict
          exact ⟨satisfied, read, (Field.duplicate_ids_empty _).mp different,
            Nat.not_lt.mp shallow⟩

-- For a form that is given: its size is judged by its characters, which is quick to evaluate.
theorem admits_of_read (value : Json) (small : 4 * value.text.length ≤ limits.maxBytes)
    (flat : value.nesting ≤ maxNesting) (verdict : limits.validateRead value = .ok schema) :
    limits.Admits schema := by
  have fits := Nat.le_trans value.byte_size_bound small
  refine Or.inl ⟨value, ?_⟩
  simpa [value_stages, Nat.not_lt.mpr fits, Nat.not_lt.mpr flat] using verdict

/-- What holds of the fields of every accepted form. -/
structure Sound (fields : List Field) : Prop where
  named : Field.NamedAll fields
  distinct : Field.Distinct fields
  shallow : Field.groupDepthAll fields ≤ limits.maxGroupDepth

theorem admitted_sound (admitted : limits.Admits schema) : limits.Sound schema.fields := by
  obtain ⟨value, verdict⟩ := admits_read limits schema admitted
  obtain ⟨meets, read, distinct, shallow⟩ := read_passed limits schema value verdict
  exact ⟨FormDocument.form_named value schema meets read, distinct, shallow⟩

end SchemaLimits

end FormEngine
