import FormEngine.Proofs.Contract.Following
import FormEngine.Proofs.Contract.Within
import FormEngine.Proofs.Schema.Walks

/-!
What a report on a malformed form says of each of its fields. Every error is at a node of the
document. The errors at or below a field are those of the field by itself, in their order, whatever
is wrong with the rest of the document, with the fields around it or with the groups above it.
-/

namespace FormEngine.FormSchema

open Contract
open Json.Pointer (resolve? labelled? isAtOrBelow)

section References

theorem field_guarded : ∀ entry ∈ definitions, Guarded entry.2 := by
  intro entry listed
  obtain rfl := List.mem_singleton.mp listed
  simp [Guarded, GuardedKeywords, GuardedKeyword, GuardedParts, fieldContract, typeClauses,
    forTypes, onlyForTypes]

theorem field_followed (depth : Nat) (field : Json) (enough : field.nesting < depth) :
    follow definitions depth fieldName field = check definitions fieldContract field :=
  follow_check definitions field_guarded depth fieldName fieldContract field rfl enough

theorem follow_located (depth : Nat) : Refers (follow definitions depth) := by
  induction depth with
  | zero => exact fun _ value _ => located_none value
  | succ depth ih =>
      intro name value ordered
      rw [follow]
      split
      · exact violations_located _ ih _ value ordered
      · exact located_none value

end References

/-- The field stands at the index in the list of fields of an object. -/
def HasField (members : List (String × Json)) (index : Nat) (field : Json) : Prop :=
  ∃ items, Keyed.find? "fields" members = some (.arr items) ∧ items[index]? = some field

section Lists

variable (refer : String → Json → List Violation) (index : Nat) (field : Json)

theorem item_within (items : List Json) (there : items[index]? = some field) :
    within [.index index] (violations refer fieldsContract (.arr items)) =
      refer fieldName field := by
  have counted := within_items [] (violations refer (.node [.definition fieldName])) index 0 items
  rw [Nat.zero_add, there] at counted
  dsimp only at counted
  simp only [fieldsContract, listOf, violations, keywordsViolations, List.append_nil]
  rw [within_append, within_here _ _ _ (keyword_here refer (.types [.array]) rfl _),
    List.nil_append]
  refine counted.trans ?_
  rw [within_root, violations, keywordsViolations, keywordsViolations, List.append_nil,
    keywordViolations]

variable (members : List (String × Json)) (sorted : Keyed.Sorted members)
  (has : HasField members index field)

include sorted has

/-- A closed record that knows a list of fields says of each field what the definition says. -/
theorem record_within (kinds : List Json.Kind) (names : List String)
    (known : List (String × Contract)) (others : List Keyword)
    (fields : Keyed.find? "fields" known = some fieldsContract) :
    within [.key "fields", .index index] (violations refer
        (.node (.types kinds :: .required names :: .properties true known :: others))
        (.obj members)) =
      refer fieldName field ++
        within [.key "fields", .index index] (keywordsViolations refer others (.obj members)) := by
  obtain ⟨items, listed, there⟩ := has
  have own := within_closed [.index index] refer known "fields" members sorted
  rw [listed, fields] at own
  have inner := own.trans (item_within refer index field items there)
  simp only [violations, keywordsViolations]
  rw [within_append, within_append, within_append,
    within_here _ _ _ (keyword_here refer (.types kinds) rfl _),
    within_here _ _ _ (keyword_here refer (.required names) rfl _), inner,
    List.nil_append, List.nil_append]

theorem form_field_within :
    within [.key "fields", .index index] (violations refer (.node rootKeywords) (.obj members)) =
      refer fieldName field :=
  (record_within refer index field members sorted has _ _ _ [] rfl).trans (List.append_nil _)

/-- The clauses on the type of a field do not look into its own list of fields. -/
theorem group_field_within :
    within [.key "fields", .index index] (violations refer fieldContract (.obj members)) =
      refer fieldName field := by
  have aside : within [.key "fields", .index index]
      (keywordsViolations refer [.all typeClauses] (.obj members)) = [] := by
    rw [keywordsViolations, keywordsViolations, List.append_nil, keywordViolations]
    exact within_near _ _ _ _ (clauses_near refer typeClauses (by decide) _)
  unfold fieldContract
  rw [record_within refer index field members sorted has, aside, List.append_nil]
  rfl

end Lists

/-- An element of the list of fields of a form, or of that of such an element that is an object. -/
inductive FieldAt : Json → Json.Pointer → Json → Prop where
  | top (members : List (String × Json)) (index : Nat) (field : Json)
      (has : HasField members index field) :
      FieldAt (.obj members) [.key "fields", .index index] field
  | inside (document : Json) (place : Json.Pointer) (members : List (String × Json))
      (index : Nat) (field : Json) (group : FieldAt document place (.obj members))
      (has : HasField members index field) :
      FieldAt document (place ++ [.key "fields", .index index]) field

section Fields

variable (members : List (String × Json)) (index : Nat) (field : Json)
  (has : HasField members index field)

include has

theorem field_leads : resolve? [.key "fields", .index index] (.obj members) = some field := by
  obtain ⟨items, listed, there⟩ := has
  simp [resolve?, listed, there]

theorem field_below : field.nesting < (Json.obj members).nesting := by
  obtain ⟨items, listed, there⟩ := has
  have item := item_below items field (List.mem_of_getElem? there)
  exact Nat.lt_trans item (member_below members _ (Keyed.find_member "fields" _ members listed))

theorem field_ordered (ordered : (Json.obj members).Ordered) : field.Ordered := by
  obtain ⟨items, listed, there⟩ := has
  have present := Keyed.find_member "fields" _ members listed
  exact Json.ordered_item items (Json.ordered_member members ordered.2 "fields" _ present) field
    (List.mem_of_getElem? there)

end Fields

section Places

variable (document : Json) (ordered : document.Ordered) (place : Json.Pointer) (field : Json)
  (placed : FieldAt document place field)

include placed

theorem place_starts : ∃ rest, place = .key "fields" :: rest := by
  induction placed with
  | top members index field has => exact ⟨_, rfl⟩
  | inside document place members index field group has ih =>
      obtain ⟨rest, rfl⟩ := ih
      exact ⟨_, List.cons_append⟩

theorem place_leads : resolve? place document = some field := by
  induction placed with
  | top members index field has => exact field_leads members index field has
  | inside document place members index field group has ih =>
      rw [Json.Pointer.resolve_append, ih]
      exact field_leads members index field has

include ordered

-- The form looks into its list of fields as a group does, so each step down is one reference.
theorem place_within :
    field.Ordered ∧
      within place (contractViolations document) = check definitions fieldContract field := by
  induction placed with
  | top members index field has =>
      have below := field_below members index field has
      refine ⟨field_ordered members index field has ordered, ?_⟩
      rw [contractViolations, check, form_field_within _ index field members ordered.1 has,
        field_followed _ field (Nat.lt_succ_of_lt below)]
  | inside document place members index field group has ih =>
      obtain ⟨sorted, found⟩ := ih ordered
      have below := field_below members index field has
      refine ⟨field_ordered members index field has sorted, ?_⟩
      rw [within_further, found, check, group_field_within _ index field members sorted.1 has,
        field_followed _ field (Nat.lt_succ_of_lt below)]

end Places

section Reports

variable (document : Json) (ordered : document.Ordered)

include ordered

/-- The contract knows no member with an empty key, whose label would be that of the root. -/
theorem empty_key_silent : within [.key ""] (contractViolations document) = [] := by
  have closed (refer : String → Json → List Violation) (known : List (String × Contract))
      (unknown : Keyed.find? "" known = none) :
      within [.key ""] (keywordViolations refer (.properties true known) document) = [] := by
    cases document with
    | obj members =>
        rw [within_closed [] refer known "" members ordered.1, unknown]
        split <;> rfl
    | _ => rfl
  rw [contractViolations, check, violations]
  unfold rootKeywords
  simp only [keywordsViolations, List.append_nil]
  rw [within_append, within_append,
    within_here _ _ _ (keyword_here _ (.types _) rfl _),
    within_here _ _ _ (keyword_here _ (.required _) rfl _), closed _ _ rfl]
  rfl

theorem no_empty_key (violation : Violation) (listed : violation ∈ contractViolations document) :
    violation.place ≠ [.key ""] := by
  intro empty
  have inside : violation.within? [.key ""] = some ⟨[], violation.fault⟩ := by
    rw [within_iff, Violation.rerooted, List.append_nil, ← empty]
  have present := List.mem_filterMap.mpr ⟨violation, listed, inside⟩
  have silent := empty_key_silent document ordered
  rw [within] at silent
  rw [silent] at present
  cases present

theorem report_located (violation : Violation) (listed : violation ∈ contractViolations document) :
    ∃ node, resolve? violation.place document = some node ∧
      labelled? violation.place.label document = some node := by
  have located := violations_located _ (follow_located (document.nesting + 1))
    (.node rootKeywords) document ordered violation listed
  obtain ⟨node, leads⟩ := Option.isSome_iff_exists.mp located
  have other := no_empty_key document ordered violation listed
  exact ⟨node, leads, Json.Pointer.label_named violation.place document node other leads⟩

theorem report_separate (place : Json.Pointer) (field : Json)
    (placed : FieldAt document place field) :
    (contractViolations document).filter
        (fun violation => isAtOrBelow place.label violation.place.label) =
      (check definitions fieldContract field).map (Violation.rerooted place) := by
  obtain ⟨rest, starts⟩ := place_starts document place field placed
  have filled : place ≠ [] := by simp [starts]
  have other : place ≠ [.key ""] := by simp [starts]
  have leads := place_leads document place field placed
  rw [← (place_within document ordered place field placed).2, ← within_rerooted]
  apply List.filter_congr
  intro violation listed
  obtain ⟨node, reaches, _⟩ := report_located document ordered violation listed
  rw [Bool.eq_iff_iff, List.isPrefixOf_iff_prefix]
  exact Json.Pointer.at_or_below_iff place violation.place document filled other
    (by rw [leads]; rfl) (by rw [reaches]; rfl)

end Reports

/-- What a report says: each error names a node and tells what is wrong there, and of each field it
says what the definition of a field says of it by itself. -/
structure Reported (document : Json) (found : List Violation) : Prop where
  written : (SchemaFault.contract found).errors =
    found.map fun violation => violation.place.label ++ ": " ++ violation.fault.message
  located : ∀ violation ∈ found, ∃ node, resolve? violation.place document = some node ∧
    labelled? violation.place.label document = some node
  separate : ∀ place field, FieldAt document place field →
    resolve? place document = some field ∧
      found.filter (fun violation => isAtOrBelow place.label violation.place.label) =
        (check definitions fieldContract field).map (Violation.rerooted place)
  -- What is found at the field itself gets the label of the field.
  relabelled : ∀ place field violation, FieldAt document place field →
    (Violation.rerooted place violation).text =
      place.label ++ violation.place.text ++ ": " ++ violation.fault.message

/-- A document within the limits that violates the contract is refused with the whole report, as a
value and as a text. -/
theorem violations_reported (limits : SchemaLimits) (document : Json) (ordered : document.Ordered)
    (small : document.byteSize ≤ limits.maxBytes)
    (shallow : document.nesting ≤ SchemaLimits.maxNesting)
    (violates : contractViolations document ≠ []) :
    ∃ found, found ≠ [] ∧ limits.validateValue document = .error (.contract found) ∧
      (∀ text : String, text.utf8ByteSize ≤ limits.maxBytes →
        Json.readLimited (some (SchemaLimits.maxNesting - 1)) text = .ok document →
          limits.validateText text = .error (.contract found)) ∧
      Reported document found := by
  have verdict : limits.validateRead document =
      .error (.contract (contractViolations document)) := by
    rw [SchemaLimits.read_stages]
    split
    · rename_i found
      rw [found]
    · rename_i none
      exact absurd none violates
  refine ⟨contractViolations document, violates, ?_, ?_, ?_⟩
  · rw [SchemaLimits.value_stages, if_neg (Nat.not_lt.mpr small), if_neg (Nat.not_lt.mpr shallow),
      verdict]
  · intro text short read
    rw [SchemaLimits.validateText, if_neg (Nat.not_lt.mpr short), read]
    exact verdict
  · constructor
    case written => rfl
    case located => exact report_located document ordered
    case separate =>
      intro place field placed
      exact ⟨place_leads document place field placed,
        report_separate document ordered place field placed⟩
    case relabelled =>
      intro place field violation placed
      obtain ⟨rest, starts⟩ := place_starts document place field placed
      rw [Violation.text, Violation.rerooted,
        Json.Pointer.label_append place violation.place (by simp [starts])]

section Tangle

/-- The first field has an empty id and a rule with an odd key, the second one a number among its
fields, and the form has no title. -/
def tangledForm : Json :=
  .obj [("fields", .arr [
    .obj [("dynamicValidation", .obj [("dependsOn", .str "x"),
        ("rules", .obj [("a/b~", .obj [("message", .str "m"), ("pattern", .bool true)])])]),
      ("id", .str ""), ("label", .str "A"), ("type", .str "validated-text")],
    .obj [("fields", .arr [.ofNat 5]), ("id", .str "g"), ("label", .str "G"),
      ("type", .str "group")]])]

theorem tangled_form_reported :
    ∃ found, SchemaLimits.standard.validateValue tangledForm = .error (.contract found) ∧
      (∀ violation ∈ found, (labelled? violation.place.label tangledForm).isSome) ∧
      found.filter (fun violation => isAtOrBelow "/fields/1/fields/0" violation.place.label) =
        [⟨[.key "fields", .index 1, .key "fields", .index 0], .notOfKind (.ofNat 5) [.object]⟩] := by
  have ordered : tangledForm.Ordered := by
    simp only [tangledForm, Json.Ordered, Json.OrderedMembers, Json.OrderedItems, Json.ofNat]
    decide +kernel
  obtain ⟨found, _, refused, _, reported⟩ := violations_reported .standard tangledForm ordered
    (by decide +kernel) (by decide +kernel) (by decide +kernel)
  refine ⟨found, refused, ?_, ?_⟩
  · intro violation listed
    obtain ⟨node, _, named⟩ := reported.located violation listed
    rw [named]
    rfl
  · have group : FieldAt tangledForm [.key "fields", .index 1] _ := .top _ 1 _ ⟨_, rfl, rfl⟩
    have number : FieldAt tangledForm ([.key "fields", .index 1] ++ [.key "fields", .index 0]) _ :=
      .inside _ _ _ 0 (.ofNat 5) group ⟨_, rfl, rfl⟩
    have label : Json.Pointer.label ([.key "fields", .index 1] ++ [.key "fields", .index 0]) =
        "/fields/1/fields/0" := by decide +kernel
    have own : check definitions fieldContract (.ofNat 5) =
        [⟨[], .notOfKind (.ofNat 5) [.object]⟩] := rfl
    have separate := (reported.separate _ _ number).2
    rw [label, own] at separate
    exact separate

end Tangle

end FormEngine.FormSchema
