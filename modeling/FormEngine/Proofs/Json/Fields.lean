import FormEngine.Proofs.Json.RoundTrip

/-!
Objects that are written with their members in an order of their own. Reading puts the members in
key order and leaves each of them as it is. When the members hold nothing but texts and counts, two
such objects have one text only if they are written with the same members in the same order, and for
this no count has to fit any number of bits.
-/

namespace FormEngine.Json

section Counts

theorem count_well_formed (count : Nat) (fits : count < Nat.pow 2 64) :
    (Json.ofNat count).WellFormed :=
  ⟨by omega, Int.ofNat_lt.mpr fits⟩

theorem option_well_formed {Value : Type} (encode : Value → Json) (held : Option Value)
    (each : ∀ value ∈ held, (encode value).WellFormed) :
    (Json.ofOption encode held).WellFormed := by
  cases held with
  | none => trivial
  | some value => exact each value rfl

end Counts

section Reading

variable (members : List (String × Json)) (wellFormed : WellFormedMembers members)
  (exact : ExactMembers members)

include wellFormed exact

theorem object_spelled : Spelled (.obj members) (Json.obj members).compact := by
  have spells : Spells (.value (.obj members)) (Json.obj members).text [] := by
    cases members with
    | nil => exact .obj [] _ ['\x7d'] [] rfl (.noMember true _ [] rfl)
    | cons member others =>
        exact .obj _ _ (membersText (member :: others) ++ ['\x7d']) []
          (by simp [Json.text, skipBlanks, isBlank])
          (members_spell (member :: others) wellFormed exact (by simp) true _ [] rfl)
  refine ⟨[], ?_, rfl⟩
  rwa [compact, String.toList_ofList]

theorem object_read : read? (Json.obj members).compact = some (ofMembers members) := by
  have read := spelled_read _ (.obj members) (object_spelled members wellFormed exact)
  rwa [settled, settled_members members wellFormed] at read

end Reading

/-- A member is found under its name; of two under one name the later one. -/
theorem get_member (members : List (String × Json)) (name : String) :
    (ofMembers members).get? name = Keyed.find? name members.reverse :=
  Keyed.find_of_list members name

section Apart

variable (leftRest rightRest : List Char)

theorem quoted_apart (left right : String)
    (same : quoted left ++ leftRest = quoted right ++ rightRest) :
    left = right ∧ leftRest = rightRest := by
  have inside : left.toList.flatMap escaped ++ '"' :: leftRest =
      right.toList.flatMap escaped ++ '"' :: rightRest := by
    simpa [quoted] using same
  have readLeft := literal_read left.toList _ leftRest (quoted_literal left.toList leftRest)
    (left.toList.length + right.toList.length + 1) (by omega) []
  have readRight := literal_read right.toList _ rightRest (quoted_literal right.toList rightRest)
    (left.toList.length + right.toList.length + 1) (by omega) []
  rw [inside, readRight] at readLeft
  simpa [eq_comm] using readLeft

theorem digits_apart (left right : Nat) (leftEnds : Ends leftRest) (rightEnds : Ends rightRest)
    (same : Nat.toDigits 10 left ++ leftRest = Nat.toDigits 10 right ++ rightRest) :
    left = right ∧ leftRest = rightRest := by
  have digits : ∀ value, ∀ char ∈ Nat.toDigits 10 value, (digit? char).isSome = true := by
    intro value char listed
    rw [ascii_digit char (Nat.isDigit_of_mem_toDigits (by decide) (by decide) listed)]
    rfl
  have ended : ∀ rest, Ends rest → rest.takeWhile (fun char => (digit? char).isSome) = [] := by
    intro rest ends
    cases rest with
    | nil => rfl
    | cons char others => simp [ends.1]
  have front : ∀ value rest, Ends rest →
      (Nat.toDigits 10 value ++ rest).takeWhile (fun char => (digit? char).isSome) =
        Nat.toDigits 10 value := by
    intro value rest ends
    rw [List.takeWhile_append_of_pos (digits value), ended rest ends, List.append_nil]
  have written : Nat.toDigits 10 left = Nat.toDigits 10 right := by
    rw [← front left leftRest leftEnds, same, front right rightRest rightEnds]
  constructor
  · rw [← Nat.ofDigitChars_ten_toDigits (n := left), written, Nat.ofDigitChars_ten_toDigits]
  · rw [written] at same
    exact List.append_cancel_left same

/-- What a field holds: nothing, a count or a text. -/
inductive Scalar : Json → Prop where
  | null : Scalar .null
  | count (value : Nat) : Scalar (.ofNat value)
  | str (text : String) : Scalar (.str text)

theorem Scalar.ofOption {Value : Type} (encode : Value → Json)
    (scalar : ∀ value, Scalar (encode value)) (held : Option Value) :
    Scalar (.ofOption encode held) := by
  cases held with
  | none => exact .null
  | some value => exact scalar value

theorem Scalar.exact {value : Json} (scalar : Scalar value) : value.Exact := by
  cases scalar with
  | null => trivial
  | count value => trivial
  | str text => trivial

-- Of the three kinds only counts begin with a digit.
theorem count_start (value : Nat) : ∃ first others, (Json.ofNat value).text = first :: others ∧
    first ≠ 'n' ∧ first ≠ '"' := by
  obtain ⟨first, others, same⟩ := List.exists_cons_of_ne_nil (@Nat.toDigits_ne_nil value 10)
  have digit : first.isDigit = true :=
    Nat.isDigit_of_mem_toDigits (by decide) (by decide) (same ▸ List.mem_cons_self)
  refine ⟨first, others, same, ?_, ?_⟩
  · rintro rfl
    cases digit
  · rintro rfl
    cases digit

theorem scalar_apart (left right : Json) (leftScalar : Scalar left) (rightScalar : Scalar right)
    (leftEnds : Ends leftRest) (rightEnds : Ends rightRest)
    (same : left.text ++ leftRest = right.text ++ rightRest) :
    left = right ∧ leftRest = rightRest := by
  cases leftScalar with
  | null =>
      cases rightScalar with
      | null => exact ⟨rfl, List.append_cancel_left same⟩
      | count value =>
          obtain ⟨first, others, written, notNull, _⟩ := count_start value
          rw [written] at same
          exact absurd (List.cons.inj same).1.symm notNull
      | str text => exact absurd (List.cons.inj same).1 (by decide)
  | count value =>
      obtain ⟨first, others, written, notNull, notQuote⟩ := count_start value
      cases rightScalar with
      | null =>
          rw [written] at same
          exact absurd (List.cons.inj same).1 notNull
      | count other =>
          obtain ⟨rfl, rest⟩ := digits_apart leftRest rightRest value other leftEnds rightEnds same
          exact ⟨rfl, rest⟩
      | str text =>
          rw [written] at same
          exact absurd (List.cons.inj same).1 notQuote
  | str text =>
      cases rightScalar with
      | null => exact absurd (List.cons.inj same).1 (by decide)
      | count value =>
          obtain ⟨first, others, written, _, notQuote⟩ := count_start value
          rw [written] at same
          exact absurd (List.cons.inj same).1.symm notQuote
      | str other =>
          obtain ⟨rfl, rest⟩ := quoted_apart leftRest rightRest text other same
          exact ⟨rfl, rest⟩

/-- What stands behind a member: the others, and the closing bracket. -/
def behindMember : List (String × Json) → List Char
  | [] => ['\x7d']
  | member :: others => ',' :: (membersText (member :: others) ++ ['\x7d'])

theorem behind_ends (members : List (String × Json)) : Ends (behindMember members) := by
  cases members with
  | nil => exact ⟨rfl, by decide⟩
  | cons member others => exact ⟨rfl, by decide⟩

theorem member_behind (name : String) (value : Json) (others : List (String × Json)) :
    membersText ((name, value) :: others) ++ ['\x7d'] =
      quoted name ++ ':' :: (value.text ++ behindMember others) := by
  cases others with
  | nil => simp [membersText, behindMember]
  | cons other more => simp [membersText, behindMember]

-- A name ends at its quote and a count at the comma or bracket behind it, so equal texts are cut at
-- the same places.
theorem members_apart (left right : List (String × Json))
    (leftScalars : ∀ member ∈ left, Scalar member.2)
    (rightScalars : ∀ member ∈ right, Scalar member.2)
    (same : membersText left ++ ['\x7d'] = membersText right ++ ['\x7d']) : left = right := by
  induction left generalizing right with
  | nil =>
      cases right with
      | nil => rfl
      | cons member others =>
          rw [member_behind] at same
          exact absurd (List.cons.inj same).1 (by decide)
  | cons member others ih =>
      cases right with
      | nil =>
          rw [member_behind] at same
          exact absurd (List.cons.inj same).1 (by decide)
      | cons other more =>
          obtain ⟨leftFirst, leftLater⟩ := List.forall_mem_cons.mp leftScalars
          obtain ⟨rightFirst, rightLater⟩ := List.forall_mem_cons.mp rightScalars
          rw [member_behind, member_behind] at same
          obtain ⟨name, held⟩ := quoted_apart _ _ _ _ same
          obtain ⟨value, behind⟩ := scalar_apart _ _ _ _ leftFirst rightFirst (behind_ends others)
            (behind_ends more) (List.cons.inj held).2
          have first : member = other := Prod.ext name value
          cases others with
          | nil =>
              cases more with
              | nil => rw [first]
              | cons next last => exact absurd (List.cons.inj behind).1 (by decide)
          | cons next last =>
              cases more with
              | nil => exact absurd (List.cons.inj behind).1 (by decide)
              | cons following final =>
                  rw [first, ih _ leftLater rightLater (List.cons.inj behind).2]

theorem object_apart (left right : List (String × Json))
    (leftScalars : ∀ member ∈ left, Scalar member.2)
    (rightScalars : ∀ member ∈ right, Scalar member.2)
    (same : (Json.obj left).compact = (Json.obj right).compact) : left = right := by
  have texts : (Json.obj left).text = (Json.obj right).text := String.ofList_injective same
  exact members_apart left right leftScalars rightScalars (List.cons.inj texts).2

end Apart

end FormEngine.Json
