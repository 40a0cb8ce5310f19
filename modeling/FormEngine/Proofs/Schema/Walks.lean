import FormEngine.Proofs.Json.Structure
import FormEngine.Schema.Validation

/-!
Depth by a stack. The walks that compare the nesting of a document and of its groups with a limit
stop at the first value or list that is too deep. They decide as the depths themselves do, in
whatever order the stack is worked off.
-/

namespace FormEngine

section Stacks

variable {Entry : Type} (weight : Entry → Nat)

/-- What the entries of a stack weigh together. -/
def weightOf : List Entry → Nat
  | [] => 0
  | entry :: waiting => weight entry + weightOf waiting

theorem weight_append (left right : List Entry) :
    weightOf weight (left ++ right) = weightOf weight left + weightOf weight right := by
  induction left with
  | nil => exact (Nat.zero_add _).symm
  | cons entry rest ih => rw [List.cons_append, weightOf, ih, weightOf, Nat.add_assoc]

theorem weight_reverse (stack : List Entry) :
    weightOf weight stack.reverse = weightOf weight stack := by
  induction stack with
  | nil => rfl
  | cons entry rest ih =>
      rw [List.reverse_cons, weight_append, ih, weightOf, weightOf, weightOf, Nat.add_zero,
        Nat.add_comm]

end Stacks

namespace Json

section Inside

variable (value : Json) (values : List Json)

theorem members_counted (members : List (String × Json)) :
    valueCountMembers members = valueCountItems (members.map Prod.snd) := by
  induction members with
  | nil => rfl
  | cons member rest ih => rw [valueCountMembers, ih, List.map_cons, valueCountItems]

theorem members_nesting (members : List (String × Json)) :
    nestingMembers members = nestingItems (members.map Prod.snd) := by
  induction members with
  | nil => rfl
  | cons member rest ih => rw [nestingMembers, ih, List.map_cons, nestingItems]

theorem inside_measured (inside : value.inside? = some values) :
    value.valueCount = valueCountItems values + 1 ∧ value.nesting = nestingItems values + 1 := by
  cases value with
  | arr items =>
      obtain rfl := Option.some.inj inside
      exact ⟨rfl, rfl⟩
  | obj members =>
      obtain rfl := Option.some.inj inside
      rw [valueCount, nesting, members_counted, members_nesting]
      exact ⟨rfl, rfl⟩
  | _ => cases inside

theorem scalar_measured (scalar : value.inside? = none) :
    value.valueCount = 1 ∧ value.nesting = 0 := by
  cases value with
  | arr items => cases scalar
  | obj members => cases scalar
  | _ => exact ⟨rfl, rfl⟩

theorem count_positive : 0 < value.valueCount := by
  cases value <;> simp [valueCount]

/-- The values on a stack and within them. -/
def valuesOn (stack : List (Json × Nat)) : Nat := weightOf (fun entry => entry.1.valueCount) stack

/-- The values of an array or an object, at one depth. -/
def valuesBelow (depth : Nat) : List (Json × Nat) := values.map fun value => (value, depth)

theorem below_counted (depth : Nat) :
    valuesOn (valuesBelow values depth) = valueCountItems values := by
  induction values with
  | nil => rfl
  | cons value rest ih => exact congrArg (value.valueCount + ·) ih

theorem stacked_counted (depth : Nat) (waiting : List (Json × Nat)) :
    valuesOn ((valuesBelow values depth).reverse ++ waiting) =
      valueCountItems values + valuesOn waiting := by
  rw [← below_counted values depth]
  unfold valuesOn
  rw [weight_append, weight_reverse]

theorem below_shallow (limit depth : Nat) (waiting : List (Json × Nat)) (shallow : depth ≤ limit)
    (others : ∀ entry ∈ waiting, entry.2 ≤ limit) :
    ∀ entry ∈ (valuesBelow values depth).reverse ++ waiting, entry.2 ≤ limit := by
  intro entry listed
  rcases List.mem_append.mp listed with new | old
  · obtain ⟨_, _, rfl⟩ := List.mem_map.mp (List.mem_reverse.mp new)
    exact shallow
  · exact others entry old

theorem below_beyond (limit depth : Nat) (shallow : depth ≤ limit) :
    (valuesBelow values depth).any (fun entry => decide (limit < entry.2 + entry.1.nesting)) =
      decide (limit < depth + nestingItems values) := by
  induction values with
  | nil => simp [valuesBelow, nestingItems, Nat.not_lt.mpr shallow]
  | cons value rest ih =>
      unfold valuesBelow at ih ⊢
      rw [List.map_cons, List.any_cons, ih, nestingItems, ← Bool.decide_or, decide_eq_decide]
      dsimp only
      omega

end Inside

/-- What is on the stack is measured each by itself. No entry is too deep already: a scalar that
stands in an array or an object is never deeper than that. -/
theorem beyond_from_stack (limit fuel : Nat) (stack : List (Json × Nat))
    (enough : valuesOn stack ≤ fuel) (shallow : ∀ entry ∈ stack, entry.2 ≤ limit) :
    nestsBeyondFrom limit fuel stack =
      stack.any fun entry => decide (limit < entry.2 + entry.1.nesting) := by
  induction fuel generalizing stack with
  | zero =>
      cases stack with
      | nil => rfl
      | cons entry waiting =>
          have positive := count_positive entry.1
          simp only [valuesOn, weightOf] at enough
          omega
  | succ fuel ih =>
      cases stack with
      | nil => rfl
      | cons entry waiting =>
          obtain ⟨value, depth⟩ := entry
          obtain ⟨level, others⟩ := List.forall_mem_cons.mp shallow
          simp only [valuesOn, weightOf] at enough
          rw [nestsBeyondFrom, List.any_cons]
          cases inside : value.inside? with
          | none =>
              obtain ⟨counted, flat⟩ := scalar_measured value inside
              have decided : decide (limit < depth + value.nesting) = false := by
                simpa [flat] using level
              rw [decided, Bool.false_or]
              exact ih waiting (by unfold valuesOn; omega) others
          | some values =>
              obtain ⟨counted, nested⟩ := inside_measured value values inside
              have sum : depth + value.nesting = depth + 1 + nestingItems values := by omega
              dsimp only
              rw [sum]
              by_cases deep : limit < depth + 1
              · rw [if_pos deep, decide_eq_true (by omega), Bool.true_or]
              · have room : valuesOn ((valuesBelow values (depth + 1)).reverse ++ waiting) ≤ fuel := by
                  rw [stacked_counted]
                  unfold valuesOn
                  omega
                have fits := Nat.le_of_not_lt deep
                have stacked := ih _ room (below_shallow values limit (depth + 1) waiting fits others)
                rw [List.any_append, List.any_reverse, below_beyond values limit (depth + 1) fits]
                  at stacked
                rw [if_neg deep]
                exact stacked

/-- The walk over a document tells its nesting from the limit. -/
theorem nests_beyond (limit : Nat) (value : Json) :
    value.nestsBeyond limit = decide (limit < value.nesting) := by
  have walked := beyond_from_stack limit value.valueCount [(value, 0)] (Nat.le_refl _) (by simp)
  simpa [nestsBeyond] using walked

end Json

namespace Field

/-- The lists of fields on a stack and within them. -/
def listsOn (stack : List (List Field × Nat)) : Nat :=
  weightOf (fun entry => groupCountAll entry.1 + 1) stack

/-- The lists of the groups of one list, at one depth. -/
def listsBelow (depth : Nat) (level : List Field) : List (List Field × Nat) :=
  (level.filterMap children?).map fun children => (children, depth)

@[simp]
theorem below_leaf (depth : Nat) (info : FieldInfo) (kind : LeafKind) (rest : List Field) :
    listsBelow depth (.leaf info kind :: rest) = listsBelow depth rest := rfl

@[simp]
theorem below_group (depth : Nat) (info : FieldInfo) (description : Option String)
    (fields rest : List Field) :
    listsBelow depth (.group info description fields :: rest) =
      (fields, depth) :: listsBelow depth rest := rfl

theorem below_counted (depth : Nat) (level : List Field) :
    listsOn (listsBelow depth level) = groupCountAll level := by
  induction level with
  | nil => rfl
  | cons field rest ih =>
      cases field with
      | leaf info kind => simpa [groupCountAll, groupCount] using ih
      | group info description fields =>
          rw [below_group, groupCountAll, groupCount, ← ih]
          rfl

theorem stacked_counted (depth : Nat) (level : List Field) (waiting : List (List Field × Nat)) :
    listsOn ((listsBelow depth level).reverse ++ waiting) = groupCountAll level + listsOn waiting := by
  rw [← below_counted depth level]
  unfold listsOn
  rw [weight_append, weight_reverse]

theorem below_beyond (limit depth : Nat) (level : List Field) (shallow : depth ≤ limit) :
    (listsBelow (depth + 1) level).any (fun entry =>
        decide (limit < entry.2 + groupDepthAll entry.1)) =
      decide (limit < depth + groupDepthAll level) := by
  induction level with
  | nil => simp [listsBelow, groupDepthAll, Nat.not_lt.mpr shallow]
  | cons field rest ih =>
      cases field with
      | leaf info kind => simpa [groupDepthAll, groupDepth] using ih
      | group info description fields =>
          rw [below_group, List.any_cons, ih, groupDepthAll, groupDepth, ← Bool.decide_or,
            decide_eq_decide]
          dsimp only
          omega

/-- What is on the stack is measured each by itself. -/
theorem beyond_from_stack (limit fuel : Nat) (stack : List (List Field × Nat))
    (enough : listsOn stack ≤ fuel) :
    groupsBeyondFrom limit fuel stack =
      stack.any fun entry => decide (limit < entry.2 + groupDepthAll entry.1) := by
  induction fuel generalizing stack with
  | zero =>
      cases stack with
      | nil => rfl
      | cons entry waiting => simp [listsOn, weightOf] at enough
  | succ fuel ih =>
      cases stack with
      | nil => rfl
      | cons entry waiting =>
          obtain ⟨level, depth⟩ := entry
          rw [groupsBeyondFrom, List.any_cons]
          by_cases deep : limit < depth
          · rw [if_pos deep, decide_eq_true (by omega), Bool.true_or]
          · have room : listsOn ((listsBelow (depth + 1) level).reverse ++ waiting) ≤ fuel := by
              rw [stacked_counted]
              simp only [listsOn, weightOf] at enough ⊢
              omega
            have stacked := ih _ room
            rw [List.any_append, List.any_reverse,
              below_beyond limit depth level (Nat.le_of_not_lt deep)] at stacked
            rw [if_neg deep]
            exact stacked

/-- The walk over the groups of a form tells their depth from the limit. -/
theorem groups_beyond (limit : Nat) (fields : List Field) :
    groupsBeyond limit fields = decide (limit < groupDepthAll fields) := by
  have walked := beyond_from_stack limit (groupCountAll fields + 1) [(fields, 0)] (Nat.le_refl _)
  simpa [groupsBeyond] using walked

end Field

namespace SchemaLimits

variable (limits : SchemaLimits) (value : Json)

/-- The stages of a document that has been read, with the depth of its groups. -/
theorem read_stages :
    limits.validateRead value =
      match FormSchema.contractViolations value with
      | first :: rest => .error (.contract (first :: rest))
      | [] =>
          match Decode.formSchema value with
          | .error error => .error (.model error)
          | .ok schema =>
              match Field.duplicateIds schema.fields with
              | first :: rest => .error (.duplicateIds (first :: rest))
              | [] =>
                  if limits.maxGroupDepth < Field.groupDepthAll schema.fields then
                    .error (.tooDeep limits.maxGroupDepth)
                  else .ok schema := by
  unfold validateRead
  cases FormSchema.contractViolations value with
  | cons first rest => rfl
  | nil =>
      cases Decode.formSchema value with
      | error error => rfl
      | ok schema =>
          cases repeated : Field.duplicateIds schema.fields with
          | cons first rest => simp [repeated]
          | nil => simp [repeated, Field.groups_beyond]

theorem value_stages :
    limits.validateValue value =
      if limits.maxBytes < value.byteSize then .error (.oversized limits.maxBytes)
      else if maxNesting < value.nesting then .error (.tooDeep limits.maxGroupDepth)
      else limits.validateRead value := by
  simp only [validateValue, Json.nests_beyond, decide_eq_true_eq]

end SchemaLimits

end FormEngine
