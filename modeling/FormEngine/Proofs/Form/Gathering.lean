import FormEngine.Form.Defaults
import FormEngine.Proofs.Keyed

/-!
Values gathered from a list of fields. Every field may have a value, which is put under its id. With
different ids no field takes the place of another, so what is found under an id is the value of the
field that has it.
-/

namespace FormEngine.Field

variable (valueOf : Field → Option FormValue)

def gatherOne (gathered : FormValues) (field : Field) : FormValues :=
  match valueOf field with
  | some value => Keyed.insert field.id value gathered
  | none => gathered

def gather (start : FormValues) (fields : List Field) : FormValues :=
  fields.foldl (gatherOne valueOf) start

theorem find_gather_one (start : FormValues) (field : Field) (key : String) :
    Keyed.find? key (gatherOne valueOf start field) =
      if key = field.id then (valueOf field).or (Keyed.find? key start)
      else Keyed.find? key start := by
  cases found : valueOf field with
  | none => simp [gatherOne, found]
  | some value => simp [gatherOne, found, Keyed.find_insert]

theorem find_gather_foreign (start : FormValues) (fields : List Field) (key : String)
    (foreign : ∀ field ∈ fields, field.id ≠ key) :
    Keyed.find? key (gather valueOf start fields) = Keyed.find? key start := by
  induction fields generalizing start with
  | nil => rfl
  | cons first rest ih =>
      obtain ⟨other, others⟩ := List.forall_mem_cons.mp foreign
      have later := ih (gatherOne valueOf start first) others
      simpa [gather, find_gather_one, Ne.symm other] using later

theorem find_gather_from (start : FormValues) (fields : List Field)
    (different : (fields.map id).Nodup) (field : Field) (present : field ∈ fields)
    (fresh : Keyed.find? field.id start = none) :
    Keyed.find? field.id (gather valueOf start fields) = valueOf field := by
  induction fields generalizing start with
  | nil => simp at present
  | cons first rest ih =>
      obtain ⟨single, others⟩ := List.nodup_cons.mp different
      rcases List.mem_cons.mp present with rfl | later
      · have foreign : ∀ other ∈ rest, other.id ≠ field.id :=
          fun other inside same => single (same ▸ List.mem_map_of_mem inside)
        have kept := find_gather_foreign valueOf (gatherOne valueOf start field) rest _ foreign
        simpa [gather, find_gather_one, fresh] using kept
      · have other : field.id ≠ first.id := fun same => single (same ▸ List.mem_map_of_mem later)
        refine ih (gatherOne valueOf start first) others later ?_
        simpa [find_gather_one, other] using fresh

theorem find_gather (fields : List Field) (different : (fields.map id).Nodup) (field : Field)
    (present : field ∈ fields) :
    Keyed.find? field.id (gather valueOf FormValues.empty fields) = valueOf field :=
  find_gather_from valueOf FormValues.empty fields different field present rfl

/-- Only fields put anything there. -/
theorem gathered_from_field (fields : List Field) (different : (fields.map id).Nodup)
    (key : String) (value : FormValue)
    (found : Keyed.find? key (gather valueOf FormValues.empty fields) = some value) :
    ∃ field ∈ fields, field.id = key ∧ valueOf field = some value := by
  by_cases owned : key ∈ fields.map id
  · obtain ⟨field, present, rfl⟩ := List.mem_map.mp owned
    rw [find_gather valueOf fields different field present] at found
    exact ⟨field, present, rfl, found⟩
  · have foreign : ∀ field ∈ fields, field.id ≠ key :=
      fun field present same => owned (same ▸ List.mem_map_of_mem present)
    rw [find_gather_foreign valueOf _ fields key foreign] at found
    simp [FormValues.empty, Keyed.find?] at found

theorem gather_sorted (start : FormValues) (fields : List Field) (sorted : Keyed.Sorted start) :
    Keyed.Sorted (gather valueOf start fields) := by
  induction fields generalizing start with
  | nil => exact sorted
  | cons first rest ih =>
      refine ih (gatherOne valueOf start first) ?_
      unfold gatherOne
      split
      · exact Keyed.insert_sorted _ _ start sorted
      · exact sorted

end FormEngine.Field
