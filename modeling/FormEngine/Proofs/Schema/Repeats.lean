import FormEngine.Proofs.Json.Pointer
import FormEngine.Proofs.Schema.Encoding
import FormEngine.Proofs.Schema.Siblings

/-!
What the search for repeated ids reports. A field repeats an id if an earlier field of its list has
it. The queue of lists is worked off breadth first, so every such field is reported once, less deep
ones first and those of one depth from left to right, and with the pointer that leads to its id in
the document of the form.
-/

namespace FormEngine.Field

section Order

/-- Breadth first: what lies less deep comes before, and at one depth what lies further left. -/
def Before (first second : List Nat) : Prop :=
  first.length < second.length ∨ (first.length = second.length ∧ first < second)

theorem append_less (first second left right : List Nat) (level : first.length = second.length)
    (less : first < second) : first ++ left < second ++ right := by
  induction first generalizing second with
  | nil =>
      obtain rfl := List.length_eq_zero_iff.mp level.symm
      exact absurd less (List.lt_irrefl [])
  | cons index first ih =>
      cases second with
      | nil => cases level
      | cons other second =>
          rw [List.cons_lt_cons_iff] at less
          rw [List.cons_append, List.cons_append, List.cons_lt_cons_iff]
          exact less.imp_right fun ⟨same, later⟩ => ⟨same, ih second (Nat.succ.inj level) later⟩

variable (first second : List Nat)

theorem before_deeper (before : Before first second) (index : Nat) :
    Before first (second ++ [index]) := by
  left
  rcases before with less | ⟨level, _⟩ <;> simp <;> omega

theorem before_within (before : Before first second) (index other : Nat) (below : List Nat) :
    Before (first ++ [index]) (second ++ other :: below) := by
  rcases before with less | ⟨level, less⟩
  · left
    simp
    omega
  · cases below with
    | nil => exact Or.inr ⟨by simp [level], append_less first second _ _ level less⟩
    | cons next below =>
        left
        simp
        omega

theorem before_beside (left right : Nat) (less : left < right) :
    Before (first ++ [left]) (first ++ [right]) := by
  right
  refine ⟨by simp, ?_⟩
  induction first with
  | nil => exact List.cons_lt_cons_iff.mpr (Or.inl less)
  | cons index first ih => exact List.cons_lt_cons_iff.mpr (Or.inr ⟨rfl, ih⟩)

end Order

/-- The field stands at the position, and an earlier one of the same list has its id. -/
inductive Repeats (field : Field) : (position : List Nat) → (fields : List Field) → Prop where
  | here (index earlier : Nat) (other : Field) (fields : List Field)
      (found : fields[index]? = some field) (before : earlier < index)
      (met : fields[earlier]? = some other) (same : other.id = field.id) :
      Repeats field [index] fields
  | inside (index : Nat) (rest : List Nat) (info : FieldInfo) (description : Option String)
      (children fields : List Field)
      (found : fields[index]? = some (.group info description children))
      (deeper : Repeats field rest children) :
      Repeats field (index :: rest) fields

section Pointers

/-- The place of the field at a position in the document of the form. -/
def pointer (position : List Nat) : Json.Pointer :=
  position.flatMap fun index => [.key "fields", .index index]

variable (position : List Nat) (index : Nat)

theorem pointer_below : pointer (position ++ [index]) =
    pointer position ++ [.key "fields", .index index] := by
  simp [pointer]

def pointerText (position : List Nat) : String :=
  String.join (position.map fun index => "/fields/" ++ toString index)

theorem pointer_text (rest : Json.Pointer) :
    Json.Pointer.text (pointer position ++ rest) = pointerText position ++ rest.text := by
  induction position with
  | nil => simp [pointer, pointerText]
  | cons index position ih =>
      have split : pointer (index :: position) ++ rest =
          .key "fields" :: .index index :: (pointer position ++ rest) := rfl
      have fields : Json.Pointer.stepText (.key "fields") ++ "/" = "/fields/" := by decide +kernel
      rw [split, Json.Pointer.text_cons, Json.Pointer.text_cons, ih, pointerText, pointerText,
        List.map_cons, String.join_cons, ← fields]
      simp only [Json.Pointer.stepText, String.append_assoc]

theorem id_label :
    Json.Pointer.label (pointer position ++ [.key "id"]) = pointerText position ++ "/id" := by
  have text : Json.Pointer.text [.key "id"] = "/id" := by decide +kernel
  rw [Json.Pointer.label, if_neg (by simp), pointer_text, text]

end Pointers

section Level

/-- The fields of one list that repeat an id, with their positions. -/
def repeatsOf (above : List Nat) (level : List Field) : List (List Nat × Field) :=
  (level.zipIdx.filter fun entry =>
    (level.take entry.2).any fun other => other.id == entry.1.id).map fun entry =>
      (above ++ [entry.2], entry.1)

/-- The lists of children below one list, with the positions of their groups. -/
def childrenOf (above : List Nat) (level : List Field) : List (List Nat × List Field) :=
  level.zipIdx.filterMap fun entry =>
    entry.1.children?.map fun children => (above ++ [entry.2], children)

def reported (entry : List Nat × Field) : Json.Pointer × String :=
  (pointer entry.1 ++ [.key "id"], entry.2.id)

/-- A list of the queue as the search keeps it, with its place. -/
def placed (entry : List Nat × List Field) : List Field × Json.Pointer :=
  (entry.2, pointer entry.1 ++ [.key "fields"])

variable (above : List Nat) (level : List Field)

-- What was seen are the ids of the fields that are done, so a repetition looks back at all of them.
theorem repeated_in_later (seen : List String) (place : Json.Pointer) (done rest : List Field)
    (known : ∀ id, id ∈ seen ↔ id ∈ done.map Field.id) :
    repeatedIn seen place (rest.zipIdx done.length) =
      ((rest.zipIdx done.length).filter fun entry =>
        ((done ++ rest).take entry.2).any fun other => other.id == entry.1.id).map fun entry =>
          (place ++ [.index entry.2, .key "id"], entry.1.id) := by
  induction rest generalizing done seen with
  | nil => rfl
  | cons field rest ih =>
      have later := fun seen known => ih seen (done ++ [field]) known
      simp only [List.length_append, List.length_cons, List.length_nil, List.append_assoc,
        List.singleton_append] at later
      have back : (done.any fun other => other.id == field.id) = true ↔ field.id ∈ seen := by
        simp [known]
      rw [List.zipIdx_cons, repeatedIn, List.filter_cons]
      simp only [List.take_left', List.contains_eq_mem, decide_eq_true_eq, back]
      by_cases repeated : field.id ∈ seen
      · rw [if_pos repeated, if_pos repeated, List.map_cons, later seen]
        intro id
        rw [known, List.map_append, List.mem_append]
        refine ⟨Or.inl, fun listed => listed.elim (fun old => old) fun new => ?_⟩
        rw [List.mem_singleton.mp new]
        exact (known field.id).mp repeated
      · rw [if_neg repeated, if_neg repeated, later (field.id :: seen)]
        intro id
        simp [known, or_comm]

theorem repeated_in_level :
    repeatedIn [] (pointer above ++ [.key "fields"]) level.zipIdx =
      (repeatsOf above level).map reported := by
  have whole := repeated_in_later [] (pointer above ++ [.key "fields"]) [] level (by simp)
  rw [List.length_nil, List.nil_append] at whole
  rw [whole, repeatsOf, List.map_map]
  exact List.map_congr_left fun entry _ => by simp [reported, pointer_below]

theorem child_lists_placed :
    childLists (pointer above ++ [.key "fields"]) level.zipIdx =
      (childrenOf above level).map placed := by
  rw [childLists, childrenOf, List.map_filterMap]
  congr 1
  funext entry
  rw [Option.map_map]
  congr 1
  funext children
  simp [placed, pointer_below]

theorem mem_front (index : Nat) (other : Field) :
    other ∈ level.take index ↔ ∃ earlier < index, level[earlier]? = some other := by
  simp only [List.mem_iff_getElem?, List.getElem?_take, Option.ite_none_right_eq_some]

theorem mem_repeats_of (position : List Nat) (field : Field) :
    (position, field) ∈ repeatsOf above level ↔
      ∃ index, position = above ++ [index] ∧ level[index]? = some field ∧
        ∃ earlier < index, ∃ other, level[earlier]? = some other ∧ other.id = field.id := by
  simp only [repeatsOf, List.mem_map, List.mem_filter, List.any_eq_true, beq_iff_eq, Prod.exists,
    List.mk_mem_zipIdx_iff_getElem?, Prod.mk.injEq, mem_front]
  constructor
  · rintro ⟨_, index, ⟨found, other, ⟨earlier, before, met⟩, same⟩, rfl, rfl⟩
    exact ⟨index, rfl, found, earlier, before, other, met, same⟩
  · rintro ⟨index, rfl, found, earlier, before, other, met, same⟩
    exact ⟨field, index, ⟨found, other, ⟨earlier, before, met⟩, same⟩, rfl, rfl⟩

theorem mem_children_of (below : List Nat) (children : List Field) :
    (below, children) ∈ childrenOf above level ↔
      ∃ index info description, below = above ++ [index] ∧
        level[index]? = some (.group info description children) := by
  simp only [childrenOf, List.mem_filterMap, Prod.exists, List.mk_mem_zipIdx_iff_getElem?,
    Option.map_eq_some_iff, Prod.mk.injEq]
  constructor
  · rintro ⟨field, index, found, _, inner, rfl, rfl⟩
    cases field with
    | leaf info kind => cases inner
    | group info description fields =>
        cases inner
        exact ⟨index, info, description, rfl, found⟩
  · rintro ⟨index, info, description, rfl, found⟩
    exact ⟨_, index, found, children, rfl, rfl, rfl⟩

theorem numbered_in_order :
    level.zipIdx.Pairwise fun first second => first.2 < second.2 := by
  have numbers : (level.zipIdx.map Prod.snd).Pairwise (· < ·) := by
    rw [List.zipIdx_map_snd]
    exact List.pairwise_lt_range'
  exact List.pairwise_map.mp numbers

theorem repeats_of_in_order :
    (repeatsOf above level).Pairwise fun first second => Before first.1 second.1 := by
  refine List.pairwise_map.mpr (((numbered_in_order level).filter _).imp ?_)
  intro first second less
  exact before_beside above first.2 second.2 less

theorem children_of_in_order :
    (childrenOf above level).Pairwise fun first second => Before first.1 second.1 := by
  refine List.pairwise_filterMap.mpr ((numbered_in_order level).imp ?_)
  intro first second less left inner right outer
  obtain ⟨_, _, rfl⟩ := Option.map_eq_some_iff.mp inner
  obtain ⟨_, _, rfl⟩ := Option.map_eq_some_iff.mp outer
  exact before_beside above first.2 second.2 less

end Level

section Queue

/-- A queue of lists in breadth-first order, none of them deeper than one step below another. -/
structure Steady (queue : List (List Nat × List Field)) : Prop where
  rising : queue.Pairwise fun first second => Before first.1 second.1
  level : ∀ first ∈ queue, ∀ second ∈ queue, ∀ index, Before first.1 (second.1 ++ [index])

/-- The field repeats an id in a list of the queue or below it. -/
def Waits (queue : List (List Nat × List Field)) (position : List Nat) (field : Field) : Prop :=
  ∃ entry ∈ queue, ∃ rest, position = entry.1 ++ rest ∧ Repeats field rest entry.2

/-- The report on a queue. -/
structure Listed (queue : List (List Nat × List Field)) (repeats : List (List Nat × Field))
    (report : List (Json.Pointer × String)) : Prop where
  written : report = repeats.map reported
  rising : repeats.Pairwise fun first second => Before first.1 second.1
  exact : ∀ position field, (position, field) ∈ repeats ↔ Waits queue position field

variable (above : List Nat) (level : List Field) (waiting : List (List Nat × List Field))

theorem waits_next (position : List Nat) (field : Field) :
    Waits ((above, level) :: waiting) position field ↔
      (position, field) ∈ repeatsOf above level ∨
        Waits (waiting ++ childrenOf above level) position field := by
  constructor
  · rintro ⟨entry, listed, rest, rfl, repeats⟩
    rcases List.mem_cons.mp listed with rfl | later
    · cases repeats with
      | here index earlier other _ found before met same =>
          left
          exact (mem_repeats_of above level _ field).mpr
            ⟨index, rfl, found, earlier, before, other, met, same⟩
      | inside index rest info description children _ found deeper =>
          right
          have child := (mem_children_of above level _ children).mpr
            ⟨index, info, description, rfl, found⟩
          exact ⟨_, List.mem_append_right _ child, rest, by simp, deeper⟩
    · exact Or.inr ⟨entry, List.mem_append_left _ later, rest, rfl, repeats⟩
  · rintro (own | ⟨entry, listed, rest, rfl, repeats⟩)
    · obtain ⟨index, rfl, found, earlier, before, other, met, same⟩ :=
        (mem_repeats_of above level position field).mp own
      exact ⟨_, List.mem_cons_self, [index], rfl,
        .here index earlier other level found before met same⟩
    · rcases List.mem_append.mp listed with later | child
      · exact ⟨entry, List.mem_cons_of_mem _ later, rest, rfl, repeats⟩
      · obtain ⟨index, info, description, below, found⟩ :=
          (mem_children_of above level entry.1 entry.2).mp child
        refine ⟨_, List.mem_cons_self, index :: rest, by simp [below], ?_⟩
        exact .inside index rest info description entry.2 level found repeats

variable (steady : Steady ((above, level) :: waiting))

include steady

-- The lists below the first one go to the end: they are as deep as a list can be by now.
theorem steady_next : Steady (waiting ++ childrenOf above level) := by
  obtain ⟨ahead, rising⟩ := List.pairwise_cons.mp steady.rising
  have head : (above, level) ∈ (above, level) :: waiting := List.mem_cons_self
  have child : ∀ entry ∈ childrenOf above level, ∃ index, entry.1 = above ++ [index] := by
    intro entry listed
    obtain ⟨index, _, _, below, _⟩ := (mem_children_of above level entry.1 entry.2).mp listed
    exact ⟨index, below⟩
  constructor
  case rising =>
    refine List.pairwise_append.mpr ⟨rising, children_of_in_order above level, ?_⟩
    intro first early second late
    obtain ⟨index, below⟩ := child second late
    rw [below]
    exact steady.level first (List.mem_cons_of_mem _ early) _ head index
  case level =>
    intro first early second late index
    rcases List.mem_append.mp early with old | new
    · have within := steady.level first (List.mem_cons_of_mem _ old)
      rcases List.mem_append.mp late with kept | added
      · exact within second (List.mem_cons_of_mem _ kept) index
      · obtain ⟨other, below⟩ := child second added
        rw [below]
        exact before_deeper _ _ (within _ head other) index
    · obtain ⟨number, below⟩ := child first new
      rw [below]
      rcases List.mem_append.mp late with kept | added
      · exact before_within above second.1 (ahead second kept) number index []
      · obtain ⟨other, under⟩ := child second added
        left
        simp [under]

theorem listed_next (repeats : List (List Nat × Field)) (report : List (Json.Pointer × String))
    (listed : Listed (waiting ++ childrenOf above level) repeats report) :
    Listed ((above, level) :: waiting) (repeatsOf above level ++ repeats)
      (repeatedIn [] (pointer above ++ [.key "fields"]) level.zipIdx ++ report) := by
  constructor
  case written => rw [repeated_in_level, listed.written, List.map_append]
  case rising =>
    refine List.pairwise_append.mpr ⟨repeats_of_in_order above level, listed.rising, ?_⟩
    rintro ⟨position, first⟩ own ⟨later, second⟩ among
    obtain ⟨index, rfl, _⟩ := (mem_repeats_of above level position first).mp own
    obtain ⟨entry, waits, rest, rfl, repeats⟩ := (listed.exact later second).mp among
    have deeper : ∃ other below, rest = other :: below := by
      cases repeats <;> exact ⟨_, _, rfl⟩
    obtain ⟨other, below, rfl⟩ := deeper
    rcases List.mem_append.mp waits with kept | added
    · exact before_within above entry.1
        ((List.pairwise_cons.mp steady.rising).1 entry kept) index other below
    · obtain ⟨number, _, _, under, _⟩ := (mem_children_of above level entry.1 entry.2).mp added
      left
      simp [under]
  case exact =>
    intro position field
    rw [List.mem_append, listed.exact, waits_next]

omit steady in
-- One list leaves the queue with every round, as many as there are lists in it and below.
theorem search_listed (fuel : Nat) (queue : List (List Nat × List Field))
    (enough : waitingCount (queue.map placed) ≤ fuel) (steady : Steady queue) :
    ∃ repeats, Listed queue repeats (repeatedFrom fuel (queue.map placed)) := by
  induction fuel generalizing queue with
  | zero =>
      cases queue with
      | nil => exact ⟨[], rfl, List.Pairwise.nil, by simp [Waits]⟩
      | cons entry waiting => simp [waitingCount, placed] at enough
  | succ fuel ih =>
      cases queue with
      | nil => exact ⟨[], rfl, List.Pairwise.nil, by simp [Waits]⟩
      | cons entry waiting =>
          obtain ⟨above, level⟩ := entry
          have room : waitingCount ((waiting ++ childrenOf above level).map placed) ≤ fuel := by
            have below := child_lists_count (pointer above ++ [.key "fields"]) level 0
            rw [List.map_append, waiting_append, ← child_lists_placed, below]
            simp only [List.map_cons, placed, waitingCount] at enough
            omega
          obtain ⟨repeats, listed⟩ := ih _ room (steady_next above level waiting steady)
          have next := listed_next above level waiting steady repeats _ listed
          rw [List.map_append, ← child_lists_placed] at next
          exact ⟨_, next⟩

end Queue

section Documents

open Json.Pointer (resolve? labelled?)

theorem item_written (fields : List Field) (index : Nat) :
    (Encode.fieldItems fields)[index]? = fields[index]?.map Encode.field := by
  induction fields generalizing index with
  | nil => rfl
  | cons field rest ih => cases index <;> simp [Encode.fieldItems, ih]

theorem children_written (info : FieldInfo) (description : Option String) (children : List Field) :
    (Encode.field (.group info description children)).get? "fields" =
      some (.arr (Encode.fieldItems children)) := by
  rw [Encode.field, Json.ofMembers, Json.get?, Keyed.find_of_list,
    Encode.find_own _ _ _ "fields" (by decide)]
  simp [Encode.groupMembers, Keyed.find?]

theorem id_written (field : Field) : (Encode.field field).get? "id" = some (.str field.id) := by
  have found (own : List (String × Json)) (type : FieldType) (owned : Encode.Owned type own) :
      (Json.ofMembers (Encode.fieldMembers field.info own type)).get? "id" =
        some (.str field.id) := by
    rw [Json.ofMembers, Json.get?, Keyed.find_of_list,
      Encode.find_info _ own type owned "id" (by decide)]
    simp [Encode.infoMembers, Keyed.find_append, Field.id, Encode.text]
  cases field with
  | leaf info kind => exact found _ _ (Encode.kind_owned kind)
  | group info description children => exact found _ _ (Encode.group_owned description _)

theorem enter_key (name : String) (rest : Json.Pointer) (value inner : Json)
    (has : value.get? name = some inner) :
    resolve? (.key name :: rest) value = resolve? rest inner := by
  cases value with
  | obj members =>
      have found : Keyed.find? name members = some inner := has
      rw [resolve?, found]
  | _ => cases has

-- Every step down goes through a list of fields, first that of the form and then those of groups.
theorem field_led (field : Field) (position : List Nat) (fields : List Field)
    (repeats : Repeats field position fields) (document : Json)
    (has : document.get? "fields" = some (.arr (Encode.fieldItems fields))) :
    resolve? (pointer position) document = some (Encode.field field) := by
  induction repeats generalizing document with
  | here index earlier other fields found before met same =>
      have item := item_written fields index
      rw [found, Option.map_some] at item
      show resolve? (.key "fields" :: [.index index]) document = _
      rw [enter_key "fields" _ document _ has, resolve?, item]
      rfl
  | inside index rest info description children fields found deeper ih =>
      have item := item_written fields index
      rw [found, Option.map_some] at item
      show resolve? (.key "fields" :: .index index :: pointer rest) document = _
      rw [enter_key "fields" _ document _ has, resolve?, item]
      exact ih _ (children_written info description children)

theorem form_fields_written (schema : FormSchema) :
    (Encode.formSchema schema).get? "fields" = some (.arr (Encode.fieldItems schema.fields)) := by
  rw [Encode.formSchema, Json.ofMembers, Json.get?, Keyed.find_of_list, Encode.find_form_member]
  simp

/-- The label of a field that repeats an id leads to that id, and what it stands in is the field. -/
theorem repeat_led (schema : FormSchema) (position : List Nat) (field : Field)
    (repeats : Repeats field position schema.fields) :
    resolve? (pointer position) (Encode.formSchema schema) = some (Encode.field field) ∧
      labelled? (pointerText position ++ "/id") (Encode.formSchema schema) =
        some (.str field.id) := by
  have led := field_led field position _ repeats _ (form_fields_written schema)
  have id : resolve? (pointer position ++ [.key "id"]) (Encode.formSchema schema) =
      some (.str field.id) := by
    rw [Json.Pointer.resolve_append, led, Option.bind_some,
      enter_key "id" [] _ _ (id_written field)]
    rfl
  have inside : pointer position ++ [.key "id"] ≠ [.key ""] := by
    cases position <;> simp [pointer]
  have named := Json.Pointer.label_named _ _ _ inside id
  rw [id_label] at named
  exact ⟨led, named⟩

/-- What the errors about repeated ids say: one for each field that repeats an id, in breadth-first
order, each with the place where that field has its id in the document of the form. -/
structure RepeatsReported (fields : List Field) (repeats : List (List Nat × Field))
    (errors : List String) : Prop where
  exact : ∀ position field, (position, field) ∈ repeats ↔ Repeats field position fields
  rising : repeats.Pairwise fun first second => Before first.1 second.1
  written : errors = repeats.map fun entry =>
    pointerText entry.1 ++ "/id: duplicate field id '" ++ entry.2.id ++ "'"
  leads : ∀ schema : FormSchema, schema.fields = fields →
    ∀ position field, (position, field) ∈ repeats →
      resolve? (pointer position) (Encode.formSchema schema) = some (Encode.field field) ∧
        labelled? (pointerText position ++ "/id") (Encode.formSchema schema) =
          some (.str field.id)
  silent : errors = [] ↔ Distinct fields

theorem repeated_ids_reported (fields : List Field) :
    ∃ repeats, RepeatsReported fields repeats
      (SchemaFault.duplicateIds (duplicateIds fields)).errors := by
  have steady : Steady [([], fields)] := by
    constructor
    · exact List.pairwise_singleton _ _
    · rintro first early second late index
      rw [List.mem_singleton.mp early, List.mem_singleton.mp late]
      exact Or.inl (by simp)
  obtain ⟨repeats, listed⟩ := search_listed (groupCountAll fields + 1) [([], fields)]
    (by simp [waitingCount, placed]) steady
  have exact : ∀ position field, (position, field) ∈ repeats ↔ Repeats field position fields := by
    intro position field
    rw [listed.exact]
    simp [Waits]
  have report : duplicateIds fields = repeats.map reported := listed.written
  refine ⟨repeats, ?_⟩
  constructor
  case exact => exact exact
  case rising => exact listed.rising
  case written =>
    have spaced : "/id" ++ ": duplicate field id '" = "/id: duplicate field id '" := by
      decide +kernel
    rw [report, SchemaFault.errors, List.map_map]
    refine List.map_congr_left fun entry _ => ?_
    simp only [Function.comp_apply, reported, id_label, ← spaced, String.append_assoc]
  case leads =>
    rintro schema rfl position field among
    exact repeat_led schema position field ((exact position field).mp among)
  case silent =>
    rw [SchemaFault.errors, List.map_eq_nil_iff, duplicate_ids_empty]

end Documents

end FormEngine.Field
