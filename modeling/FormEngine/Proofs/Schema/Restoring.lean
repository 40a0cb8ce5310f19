import FormEngine.Proofs.Schema.Acceptance
import FormEngine.Proofs.Schema.Encoding

/-!
Reading a form and writing it again. A part that has its shape is written as it was read: the shape
admits no attribute that a reader passes over, no null and nothing that is read like something
else. What is left to the writer is the order of members, and documents keep it too.
-/

namespace FormEngine.FormDocument

/-- What is read from an ordered value of the shape is written as that value. -/
def Restores {Value : Type} (shape : Shape) (encode : Value → Json) (decode : Decoder Value) :
    Prop :=
  ∀ value result, value.Ordered → shape value → decode value = .ok result → encode result = value

section Records

variable {Value : Type} (shape : Shape) (encode : Value → Json) (decode : Decoder Value)
  (restores : Restores shape encode decode)

include restores

theorem items_restored (items : List Json) (results : List Value)
    (ordered : Json.OrderedItems items) (each : ∀ item ∈ items, shape item)
    (read : Decode.items decode items = .ok results) : results.map encode = items := by
  induction items generalizing results with
  | nil =>
      cases read
      rfl
  | cons item rest ih =>
      simp only [Decode.items, bind_ok] at read
      obtain ⟨result, readItem, others, readOthers, made⟩ := read
      cases made
      obtain ⟨head, tail⟩ := List.forall_mem_cons.mp each
      rw [List.map_cons, restores item result ordered.1 head readItem,
        ih others ordered.2 tail readOthers]

theorem list_restored : Restores (IsListOf shape) (Encode.list encode) (Decode.list decode) := by
  rintro _ results ordered ⟨items, rfl, each⟩ read
  exact congrArg Json.arr (items_restored shape encode decode restores items results ordered each
    read)

variable (members : List (String × Json)) (name : String) (ordered : Json.OrderedMembers members)
  (each : ∀ held, (name, held) ∈ members → shape held)

include ordered each

theorem required_restored (result : Value)
    (read : Decode.required members name decode = .ok result) :
    Keyed.find? name members = some (encode result) := by
  cases found : Keyed.find? name members with
  | none => simp [Decode.required, found, Decode.mismatch] at read
  | some held =>
      have present := Keyed.find_member name held members found
      simp only [Decode.required, found] at read
      rw [restores held result (Json.ordered_member members ordered name held present)
        (each held present) read]

-- A null would be read as if nothing stood there, and it is of no shape.
theorem optional_restored (notNull : ¬ shape .null) (result : Option Value)
    (read : Decode.optional members name decode = .ok result) :
    Keyed.find? name members = result.map encode := by
  cases found : Keyed.find? name members with
  | none =>
      have none : result = none := by simpa [Decode.optional, found] using read.symm
      simp [none]
  | some held =>
      have present := Keyed.find_member name held members found
      have holds := each held present
      cases readHeld : decode held with
      | error fault => cases held <;> simp_all [Decode.optional, Except.map]
      | ok value =>
          have restored := restores held value
            (Json.ordered_member members ordered name held present) holds readHeld
          have some : result = some value := by
            cases held <;> simp_all [Decode.optional, Except.map]
          simp [some, restored]

omit restores ordered each in
/-- Entries that answer for the known names as the members do, and for no others, are written as the
members. -/
theorem members_restored (names : List String) (sorted : Keyed.Sorted members)
    (known : ∀ member ∈ members, member.1 ∈ names) (entries : List (String × Json))
    (same : ∀ name ∈ names, Keyed.find? name entries.reverse = Keyed.find? name members)
    (others : ∀ name, name ∉ names → Keyed.find? name entries.reverse = none) :
    Json.ofMembers entries = .obj members := by
  refine congrArg Json.obj (Keyed.sorted_ext _ members (Keyed.of_list_sorted entries) sorted ?_)
  intro name
  rw [Keyed.find_of_list]
  by_cases listed : name ∈ names
  · exact same name listed
  · rw [others name listed]
    refine ((Keyed.find_absent name members).mpr fun held present => listed ?_).symm
    exact known (name, held) present

omit restores ordered each in
theorem record_restored (known : List (String × Shape)) (sorted : Keyed.Sorted members)
    (each : ∀ member ∈ members, ∃ shape, (member.1, shape) ∈ known ∧ shape member.2)
    (entries : List (String × Json))
    (same : ∀ name ∈ Keyed.keys known, Keyed.find? name entries.reverse =
      Keyed.find? name members)
    (others : ∀ name, name ∉ Keyed.keys known → Keyed.find? name entries.reverse = none) :
    Json.ofMembers entries = .obj members := by
  refine members_restored members (Keyed.keys known) sorted (fun member present => ?_) entries same
    others
  obtain ⟨shape, listed, _⟩ := each member present
  exact List.mem_map_of_mem listed

end Records

section Parts

theorem text_restored : Restores IsText Encode.text Decode.text := by
  rintro _ result _ ⟨text, rfl⟩ read
  cases read
  rfl

theorem flag_restored : Restores IsFlag Encode.flag Decode.flag := by
  rintro _ result _ ⟨flag, rfl⟩ read
  cases read
  rfl

theorem whole_restored : Restores IsWhole Encode.whole Decode.whole := by
  rintro _ result _ ⟨count, rfl⟩ read
  cases read
  rfl

theorem scalar_restored : Restores IsScalar Encode.scalar Decode.scalar := by
  rintro _ result _ (⟨text, rfl⟩ | ⟨flag, rfl⟩) read
  · cases read
    rfl
  · cases read
    rfl

theorem operand_restored : Restores IsOperand Encode.operand Decode.operand := by
  rintro _ result ordered (⟨text, rfl⟩ | ⟨flag, rfl⟩ | ⟨items, rfl, each⟩) read
  · cases read
    rfl
  · cases read
    rfl
  · cases readItems : Decode.items Decode.text items with
    | error fault => simp [Decode.operand, readItems, Except.map] at read
    | ok texts =>
        obtain rfl : .list texts = result := by
          simpa [Decode.operand, readItems, Except.map] using read
        exact congrArg Json.arr
          (items_restored IsText _ _ text_restored items texts ordered each readItems)

theorem comparison_restored (typed : Bool) :
    Restores (IsOneOf ["equals", "notEquals", "contains", "in"])
      (fun comparison : Comparison => .str comparison.tag) (Decode.comparison typed) := by
  rintro _ result _ ⟨tag, listed, rfl⟩ read
  simp only [List.mem_cons, List.not_mem_nil, or_false] at listed
  rcases listed with rfl | rfl | rfl | rfl
  all_goals
    cases read
    rfl

theorem input_type_restored :
    Restores (IsOneOf (InputType.all.map InputType.tag))
      (fun type : InputType => .str type.tag) Decode.inputType := by
  rintro _ result _ ⟨tag, listed, rfl⟩ read
  obtain ⟨type, _, rfl⟩ := List.mem_map.mp listed
  have same := Encode.input_type_faithful.read type
  rw [same] at read
  cases read
  rfl

theorem condition_restored (typed : Bool) :
    Restores IsCondition Encode.condition (Decode.condition typed) := by
  rintro _ result ordered ⟨members, rfl, _, each⟩ read
  obtain ⟨sorted, ordered⟩ := ordered
  have member := record_member _ members each
  simp only [Decode.condition, Decode.attributes, bind_ok] at read
  obtain ⟨_, same, field, readField, comparison, readComparison, operand, readOperand, made⟩ := read
  cases same
  cases made
  have foundField := required_restored _ _ _ text_restored members "field" ordered
    (member "field" IsText (by simp)) field readField
  have foundComparison := required_restored _ _ _ (comparison_restored typed) members "operator"
    ordered (member "operator" _ (by simp)) comparison readComparison
  have foundOperand := required_restored _ _ _ operand_restored members "value" ordered
    (member "value" IsOperand (by simp)) operand readOperand
  refine record_restored members _ sorted each _ ?_ ?_
  · simp [Keyed.keys, Keyed.find?, foundField, foundComparison, foundOperand, Encode.text]
  · intro name foreign
    simp_all [Keyed.keys, Keyed.find?, eq_comm]

theorem visibility_restored (typed : Bool) :
    Restores IsVisibility Encode.visibilityRule (Decode.visibilityRule typed) := by
  rintro _ result ordered ⟨members, rfl, _, each⟩ read
  obtain ⟨sorted, ordered⟩ := ordered
  simp only [Decode.visibilityRule, Decode.attributes, bind_ok] at read
  obtain ⟨_, same, conditions, readConditions, made⟩ := read
  cases same
  cases made
  have found := required_restored _ _ _ (list_restored _ _ _ (condition_restored typed)) members
    "conditions" ordered (record_member _ members each "conditions" _ (by simp)) conditions
    readConditions
  refine record_restored members _ sorted each _ ?_ ?_
  · simp [Keyed.keys, Keyed.find?, found]
  · intro name foreign
    simp_all [Keyed.keys, Keyed.find?, eq_comm]

theorem rule_guard_restored : Restores IsRuleGuard Encode.ruleGuard Decode.ruleGuard := by
  rintro _ result ordered ⟨members, rfl, _, each⟩ read
  obtain ⟨sorted, ordered⟩ := ordered
  have member := record_member _ members each
  simp only [Decode.ruleGuard, Decode.attributes, bind_ok] at read
  obtain ⟨_, same, equals, readEquals, field, readField, made⟩ := read
  cases same
  cases made
  have foundEquals := required_restored _ _ _ scalar_restored members "equals" ordered
    (member "equals" IsScalar (by simp)) equals readEquals
  have foundField := required_restored _ _ _ text_restored members "field" ordered
    (member "field" IsText (by simp)) field readField
  refine record_restored members _ sorted each _ ?_ ?_
  · simp [Keyed.keys, Keyed.find?, foundEquals, foundField, Encode.text]
  · intro name foreign
    simp_all [Keyed.keys, Keyed.find?, eq_comm]

theorem rule_restored : Restores IsRule Encode.validationRule Decode.validationRule := by
  rintro _ result ordered ⟨members, rfl, _, each⟩ read
  obtain ⟨sorted, ordered⟩ := ordered
  have member := record_member _ members each
  simp only [Decode.validationRule, Decode.attributes, bind_ok] at read
  obtain ⟨_, same, longest, readLongest, message, readMessage, shortest, readShortest, pattern,
    readPattern, demanded, readDemanded, guard, readGuard, made⟩ := read
  cases same
  cases made
  have foundLongest := optional_restored _ _ _ whole_restored members "maxLength" ordered
    (member "maxLength" IsWhole (by simp)) (by simp [IsWhole]) longest readLongest
  have foundMessage := required_restored _ _ _ text_restored members "message" ordered
    (member "message" IsText (by simp)) message readMessage
  have foundShortest := optional_restored _ _ _ whole_restored members "minLength" ordered
    (member "minLength" IsWhole (by simp)) (by simp [IsWhole]) shortest readShortest
  have foundPattern := optional_restored _ _ _ text_restored members "pattern" ordered
    (member "pattern" IsText (by simp)) (by simp [IsText]) pattern readPattern
  have foundDemanded := optional_restored _ _ _ flag_restored members "required" ordered
    (member "required" IsFlag (by simp)) (by simp [IsFlag]) demanded readDemanded
  have foundGuard := optional_restored _ _ _ rule_guard_restored members "when" ordered
    (member "when" IsRuleGuard (by simp)) (by simp [IsRuleGuard, IsRecord]) guard readGuard
  refine record_restored members _ sorted each _ ?_ ?_
  · simp [Keyed.keys, Keyed.find_append, foundLongest, foundMessage, foundShortest, foundPattern,
      foundDemanded, foundGuard]
  · intro name foreign
    simp_all [Keyed.keys, Keyed.find_append, eq_comm]

theorem pattern_rule_restored :
    Restores IsPatternRule Encode.patternRule Decode.patternRule := by
  rintro _ result ordered ⟨members, rfl, _, each⟩ read
  obtain ⟨sorted, ordered⟩ := ordered
  have member := record_member _ members each
  simp only [Decode.patternRule, Decode.attributes, bind_ok] at read
  obtain ⟨_, same, message, readMessage, pattern, readPattern, made⟩ := read
  cases same
  cases made
  have foundMessage := required_restored _ _ _ text_restored members "message" ordered
    (member "message" IsText (by simp)) message readMessage
  have foundPattern := required_restored _ _ _ text_restored members "pattern" ordered
    (member "pattern" IsText (by simp)) pattern readPattern
  refine record_restored members _ sorted each _ ?_ ?_
  · simp [Keyed.keys, Keyed.find?, foundMessage, foundPattern, Encode.text]
  · intro name foreign
    simp_all [Keyed.keys, Keyed.find?, eq_comm]

/-- The rules of a dictionary are written in the order in which they were read. -/
theorem entries_restored (members : List (String × Json)) (ordered : Json.OrderedMembers members)
    (each : ∀ member ∈ members, IsPatternRule member.2) (rules : List (String × PatternRule))
    (read : Decode.entries Decode.patternRule members = .ok rules) :
    (rules.map fun entry => (entry.1, Encode.patternRule entry.2)) = members := by
  induction members generalizing rules with
  | nil =>
      cases read
      rfl
  | cons member rest ih =>
      simp only [Decode.entries, bind_ok] at read
      obtain ⟨rule, readRule, others, readOthers, made⟩ := read
      cases made
      obtain ⟨head, tail⟩ := List.forall_mem_cons.mp each
      rw [List.map_cons, pattern_rule_restored member.2 rule ordered.1 head readRule,
        ih ordered.2 tail others readOthers]

theorem dynamic_validation_restored :
    Restores IsDynamicValidation Encode.dynamicValidation Decode.dynamicValidation := by
  have dictionary : Restores (IsDictionaryOf IsPatternRule)
      (fun rules : List (String × PatternRule) =>
        .obj (rules.map fun entry => (entry.1, Encode.patternRule entry.2)))
      (Decode.dictionary Decode.patternRule) := by
    rintro _ rules ordered ⟨members, rfl, each⟩ read
    exact congrArg Json.obj (entries_restored members ordered.2 each rules read)
  rintro _ result ordered ⟨members, rfl, _, each⟩ read
  obtain ⟨sorted, ordered⟩ := ordered
  have member := record_member _ members each
  simp only [Decode.dynamicValidation, Decode.attributes, bind_ok] at read
  obtain ⟨_, same, dependsOn, readDepends, rules, readRules, made⟩ := read
  cases same
  cases made
  have foundDepends := required_restored _ _ _ text_restored members "dependsOn" ordered
    (member "dependsOn" IsText (by simp)) dependsOn readDepends
  have foundRules := required_restored _ _ _ dictionary members "rules" ordered
    (member "rules" _ (by simp)) rules readRules
  refine record_restored members _ sorted each _ ?_ ?_
  · simp [Keyed.keys, Keyed.find?, foundDepends, foundRules, Encode.text]
  · intro name foreign
    simp_all [Keyed.keys, Keyed.find?, eq_comm]

theorem integration_restored : Restores IsIntegration Encode.integration Decode.integration := by
  rintro _ result ordered ⟨members, rfl, _, each⟩ read
  obtain ⟨sorted, ordered⟩ := ordered
  have member := record_member _ members each
  have texts := list_restored _ _ _ text_restored
  simp only [Decode.integration, Decode.attributes, bind_ok] at read
  obtain ⟨_, same, debounce, readDebounce, endpoint, readEndpoint, sources, readSources, targets,
    readTargets, made⟩ := read
  cases same
  cases made
  have foundDebounce := optional_restored _ _ _ whole_restored members "debounceMs" ordered
    (member "debounceMs" IsWhole (by simp)) (by simp [IsWhole]) debounce readDebounce
  have foundEndpoint := required_restored _ _ _ text_restored members "endpoint" ordered
    (member "endpoint" IsText (by simp)) endpoint readEndpoint
  have foundSources := required_restored _ _ _ texts members "sourceFields" ordered
    (member "sourceFields" _ (by simp)) sources readSources
  have foundTargets := required_restored _ _ _ texts members "targetFields" ordered
    (member "targetFields" _ (by simp)) targets readTargets
  refine record_restored members _ sorted each _ ?_ ?_
  · simp [Keyed.keys, Keyed.find_append, foundDebounce, foundEndpoint, foundSources, foundTargets]
  · intro name foreign
    simp_all [Keyed.keys, Keyed.find_append, eq_comm]

theorem choice_restored : Restores IsChoice Encode.choice Decode.choice := by
  rintro _ result ordered ⟨members, rfl, _, each⟩ read
  obtain ⟨sorted, ordered⟩ := ordered
  have member := record_member _ members each
  simp only [Decode.choice, Decode.attributes, bind_ok] at read
  obtain ⟨_, same, label, readLabel, value, readValue, made⟩ := read
  cases same
  cases made
  have foundLabel := required_restored _ _ _ text_restored members "label" ordered
    (member "label" IsText (by simp)) label readLabel
  have foundValue := required_restored _ _ _ text_restored members "value" ordered
    (member "value" IsText (by simp)) value readValue
  refine record_restored members _ sorted each _ ?_ ?_
  · simp [Keyed.keys, Keyed.find?, foundLabel, foundValue, Encode.text]
  · intro name foreign
    simp_all [Keyed.keys, Keyed.find?, eq_comm]

theorem choices_restored :
    Restores (IsFilledListOf IsChoice) (Encode.list Encode.choice) (Decode.list Decode.choice) := by
  rintro value choices ordered ⟨items, same, _, each⟩ read
  exact list_restored _ _ _ choice_restored value choices ordered ⟨items, same, each⟩ read

end Parts

end FormEngine.FormDocument
