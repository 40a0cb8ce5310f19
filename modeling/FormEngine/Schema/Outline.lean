import FormEngine.Schema.Basic

/-!
The fields of a form in display order: every field before its children, siblings from first to last.
Each field comes with its dotted path.
-/

namespace FormEngine

namespace Field

mutual
def outline (parent : String) : Field → List (String × Field)
  | .leaf info kind => [(Path.child parent info.id, .leaf info kind)]
  | .group info description fields =>
      (Path.child parent info.id, .group info description fields) ::
        outlineAll (Path.child parent info.id) fields

def outlineAll (parent : String) : List Field → List (String × Field)
  | [] => []
  | field :: rest => outline parent field ++ outlineAll parent rest
end

end Field

namespace FormSchema

def outline (schema : FormSchema) : List (String × Field) :=
  Field.outlineAll "" schema.fields

section Integrations

mutual
def fieldCount : Field → Nat
  | .leaf _ _ => 1
  | .group _ _ fields => fieldCountAll fields + 1

def fieldCountAll : List Field → Nat
  | [] => 0
  | field :: rest => fieldCount field + fieldCountAll rest
end

/-- The fields are put on the stack one after the other, so the last of them comes to the top. -/
def pushAll (fields stack : List Field) : List Field :=
  fields.foldl (fun stack field => field :: stack) stack

/-- The integrations of the fields visited so far, and the stack of the fields to visit, its top
first. -/
structure Search where
  found : List Integration
  stack : List Field

namespace Search

/-- Takes a field off the stack and puts its children there, last one first. -/
def visit? (search : Search) : Option Search :=
  match search.stack with
  | [] => none
  | field :: rest => some
      { found := search.found ++ field.info.integration.toList
        stack := pushAll (field.children?.getD []).reverse rest }

theorem push_reversed (fields stack : List Field) :
    pushAll fields.reverse stack = fields ++ stack := by
  simp [pushAll]

theorem count_append (left right : List Field) :
    fieldCountAll (left ++ right) = fieldCountAll left + fieldCountAll right := by
  induction left with
  | nil => exact (Nat.zero_add _).symm
  | cons field rest ih => rw [List.cons_append, fieldCountAll, ih, fieldCountAll, Nat.add_assoc]

theorem count_children (field : Field) :
    fieldCount field = fieldCountAll (field.children?.getD []) + 1 := by
  cases field <;> rfl

/-- A visit takes one field off, with all fields below it counted. -/
theorem visit_count (search next : Search) (visited : search.visit? = some next) :
    fieldCountAll search.stack = fieldCountAll next.stack + 1 := by
  unfold visit? at visited
  split at visited
  · cases visited
  · rename_i field rest same
    obtain rfl := Option.some.inj visited
    rw [same, push_reversed, count_append, fieldCountAll, count_children, Nat.add_right_comm]

/-- Visits until the stack is empty. -/
def finish (search : Search) : List Integration :=
  match visited : search.visit? with
  | none => search.found
  | some next =>
      have := visit_count search next visited
      next.finish
termination_by fieldCountAll search.stack

end Search

/-- The integrations of the form are found before all fields. -/
def search (schema : FormSchema) : Search := ⟨schema.integrations, pushAll schema.fields.reverse []⟩

/-- Integrations of the form first, then those of the fields in display order. -/
def allIntegrations (schema : FormSchema) : List Integration := schema.search.finish

end Integrations

end FormSchema

end FormEngine
