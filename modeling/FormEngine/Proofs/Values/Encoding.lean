import FormEngine.Proofs.Json.PrintedNesting
import FormEngine.Proofs.Json.RoundTrip
import FormEngine.Proofs.Json.Within
import FormEngine.Proofs.Values.Shape

/-!
Values as JSON and back. Every tree of values is read back from its JSON, which has no numbers and
nests as deep as the groups of the tree; in a tree with its entries in key order so has the JSON its
members. Hence the compact text of a tree is read back as its JSON wherever the brackets fit.
Documents with the shape of form values are the JSON of trees, of one tree each, and of every tree
that does not nest too deep.
-/

namespace FormEngine

namespace FormValue

mutual
theorem read_back (value : FormValue) : ofJson? value.toJson = some value := by
  cases value with
  | text value => rfl
  | flag value => rfl
  | group entries => rw [toJson, ofJson?, entries_read_back entries, Option.map_some]

theorem entries_read_back (entries : List (String × FormValue)) :
    entriesOfJson? (entriesToJson entries) = some entries := by
  cases entries with
  | nil => rfl
  | cons entry rest =>
      obtain ⟨name, value⟩ := entry
      rw [entriesToJson, entriesOfJson?, read_back value, entries_read_back rest]
end

theorem keys_written (entries : List (String × FormValue)) :
    Keyed.keys (entriesToJson entries) = Keyed.keys entries := by
  induction entries with
  | nil => rfl
  | cons entry rest ih => exact congrArg (entry.1 :: ·) ih

theorem sorted_written (entries : List (String × FormValue)) :
    Keyed.Sorted (entriesToJson entries) ↔ Keyed.Sorted entries := by
  rw [Keyed.sorted_iff_keys, keys_written, ← Keyed.sorted_iff_keys]

mutual
theorem written_well_formed (value : FormValue) (ordered : value.Ordered) :
    value.toJson.WellFormed := by
  cases value with
  | text value => trivial
  | flag value => trivial
  | group entries =>
      exact ⟨(sorted_written entries).mpr ordered.1, entries_well_formed entries ordered.2⟩

theorem entries_well_formed (entries : List (String × FormValue)) (ordered : OrderedEntries entries) :
    Json.WellFormedMembers (entriesToJson entries) := by
  cases entries with
  | nil => trivial
  | cons entry rest =>
      exact ⟨written_well_formed entry.2 ordered.1, entries_well_formed rest ordered.2⟩
end

mutual
theorem written_exact (value : FormValue) : value.toJson.Exact := by
  cases value with
  | text value => trivial
  | flag value => trivial
  | group entries => exact entries_exact entries

theorem entries_exact (entries : List (String × FormValue)) :
    Json.ExactMembers (entriesToJson entries) := by
  cases entries with
  | nil => trivial
  | cons entry rest => exact ⟨written_exact entry.2, entries_exact rest⟩
end

mutual
theorem written_nesting (value : FormValue) : value.toJson.nesting = value.nesting := by
  cases value with
  | text value => rfl
  | flag value => rfl
  | group entries => rw [toJson, Json.nesting, nesting, entries_nesting entries]

theorem entries_nesting (entries : List (String × FormValue)) :
    Json.nestingMembers (entriesToJson entries) = nestingEntries entries := by
  cases entries with
  | nil => rfl
  | cons entry rest =>
      obtain ⟨name, value⟩ := entry
      rw [entriesToJson, Json.nestingMembers, nestingEntries, written_nesting value,
        entries_nesting rest]
end

mutual
theorem written_ordered (value : FormValue) (ordered : value.toJson.Ordered) : value.Ordered := by
  cases value with
  | text value => trivial
  | flag value => trivial
  | group entries =>
      exact ⟨(sorted_written entries).mp ordered.1, entries_ordered entries ordered.2⟩

theorem entries_ordered (entries : List (String × FormValue))
    (ordered : Json.OrderedMembers (entriesToJson entries)) : OrderedEntries entries := by
  cases entries with
  | nil => trivial
  | cons entry rest =>
      exact ⟨written_ordered entry.2 ordered.1, entries_ordered rest ordered.2⟩
end

mutual
/-- Only the JSON of a value has the shape, however much room there is. -/
theorem shaped_written (room : Nat) (document : Json)
    (shaped : FormValues.shaped room document = true) :
    ∃ value : FormValue, value.toJson = document := by
  cases document with
  | str text => exact ⟨.text text, rfl⟩
  | bool flag => exact ⟨.flag flag, rfl⟩
  | obj members =>
      cases room with
      | zero => simp [FormValues.shaped] at shaped
      | succ room =>
          obtain ⟨entries, rfl⟩ := members_written room members shaped
          exact ⟨.group entries, rfl⟩
  | _ => simp [FormValues.shaped] at shaped

theorem members_written (room : Nat) (members : List (String × Json))
    (shaped : FormValues.shapedMembers room members = true) :
    ∃ entries, entriesToJson entries = members := by
  cases members with
  | nil => exact ⟨[], rfl⟩
  | cons member rest =>
      obtain ⟨name, document⟩ := member
      obtain ⟨head, tail⟩ := Bool.and_eq_true_iff.mp shaped
      obtain ⟨value, rfl⟩ := shaped_written room document head
      obtain ⟨entries, rfl⟩ := members_written room rest tail
      exact ⟨(name, value) :: entries, rfl⟩
end

end FormValue

namespace FormValues

variable (values : FormValues)

theorem read_back : ofJson? values.toJson = some values := FormValue.entries_read_back values

theorem compact_read_back (room : Nat) (ordered : values.Ordered)
    (fits : FormValue.nestingEntries values < room) :
    Json.readLimited (some room) values.toJson.compact = .ok values.toJson := by
  have readable := Json.compact_read values.toJson
    (FormValue.written_well_formed (.group values) ordered) (FormValue.written_exact (.group values))
  have shallow : Json.nestingReaches (room + 1) values.toJson.compact = false := by
    have deep : values.toJson.nesting = FormValue.nestingEntries values + 1 :=
      FormValue.written_nesting (.group values)
    rw [Json.nesting_reaches_compact _ values.toJson (Nat.succ_pos room), deep]
    simpa using fits
  rcases Json.read_limited_within room _ values.toJson readable with ⟨_, read⟩ | ⟨reached, _⟩
  · exact read
  · rw [shallow] at reached
    simp at reached

/-- What has the shape is the JSON of one tree, and is read as that tree. -/
theorem shape_written (document : Json) (shape : hasShape document = true) :
    ∃ values : FormValues, values.toJson = document := by
  cases document with
  | obj members =>
      rw [has_shape_object] at shape
      obtain ⟨entries, written⟩ := FormValue.members_written _ members shape
      exact ⟨entries, congrArg Json.obj written⟩
  | _ => simp [hasShape] at shape

theorem read_shape (document : Json) (shape : hasShape document = true) :
    ofJson? document = some values ↔ values.toJson = document := by
  constructor
  · intro read
    obtain ⟨written, rfl⟩ := shape_written document shape
    rw [read_back] at read
    rw [Option.some.inj read]
  · rintro rfl
    exact read_back values

theorem json_ordered_iff : values.toJson.Ordered ↔ values.Ordered := by
  constructor
  · exact FormValue.written_ordered (.group values)
  · intro ordered
    exact Json.WellFormed.ordered _ (FormValue.written_well_formed (.group values) ordered)

/-- The document is the tree written out, and the tree is one that may be kept. -/
structure IsTreeOf (document : Json) (values : FormValues) : Prop where
  written : values.toJson = document
  shallow : (FormValue.group values).nesting ≤ maxNesting

theorem written_once (other : FormValues) (same : other.toJson = values.toJson) :
    other = values := by
  have read := read_back other
  rw [same, read_back] at read
  exact (Option.some.inj read).symm

theorem shape_iff_tree (document : Json) :
    hasShape document = true ↔ ∃ values, IsTreeOf document values := by
  constructor
  · intro shape
    obtain ⟨values, rfl⟩ := shape_written document shape
    exact ⟨values, rfl, (has_shape_to_json values).mp shape⟩
  · rintro ⟨values, rfl, shallow⟩
    exact (has_shape_to_json values).mpr shallow

/-- The check decides which documents are trees that may be kept. Such a tree is the only one the
document can be read as, and it is the one that is read. Reading undoes writing however deep the
groups of a tree nest. -/
theorem shape_exact (document : Json) :
    (hasShape document = true ↔ ∃ values, IsTreeOf document values) ∧
    (∀ values, IsTreeOf document values →
      ofJson? document = some values ∧ (values.Ordered ↔ document.Ordered) ∧
      ∀ other : FormValues, other.toJson = document → other = values) ∧
    ∀ values : FormValues, ofJson? values.toJson = some values := by
  refine ⟨shape_iff_tree document, ?_, read_back⟩
  rintro values ⟨rfl, _⟩
  exact ⟨read_back values, (json_ordered_iff values).symm, written_once values⟩

-- As many groups as fit in one another, and one more, which is read all the same.
example :
    let nested := Nat.repeat (fun values : FormValues => [("box", .group values)])
    hasShape (nested 31 []).toJson = true ∧ hasShape (nested 32 []).toJson = false ∧
      ofJson? (nested 32 []).toJson = some (nested 32 []) := by
  decide

end FormValues

end FormEngine
