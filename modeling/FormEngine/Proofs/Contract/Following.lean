import FormEngine.Contract.Basic
import FormEngine.Proofs.Keyed
import FormEngine.Proofs.Json.Structure

/-!
How far references have to be followed. What a contract finds in a value depends on what references
mean on that value and the values in it only, and on the values in it alone if no reference stands
outside of the contracts for members and items. Definitions of that kind mean the same at every
depth that is beyond the nesting of the value.
-/

namespace FormEngine.Contract

section Guards

mutual
/-- No reference is about the value itself. -/
def Guarded : Contract → Prop
  | .never => True
  | .node keywords => GuardedKeywords keywords

def GuardedKeywords : List Keyword → Prop
  | [] => True
  | keyword :: rest => GuardedKeyword keyword ∧ GuardedKeywords rest

def GuardedKeyword : Keyword → Prop
  | .all parts => GuardedParts parts
  | .exactlyOne options => GuardedParts options
  | .tagged _ consequence => Guarded consequence
  | .definition _ => False
  | _ => True

def GuardedParts : List Contract → Prop
  | [] => True
  | part :: rest => Guarded part ∧ GuardedParts rest
end

end Guards

section Agreement

variable (refer other : String → Json → List Violation)

/-- The references mean the same on the value, if they may be about it, and on what is in it. -/
def Agree (guarded : Prop) (value : Json) : Prop :=
  ∀ name held, held.nesting ≤ value.nesting → (guarded → held.nesting < value.nesting) →
    refer name held = other name held

variable {refer other} in
theorem Agree.part {whole part : Prop} {value : Json} (agree : Agree refer other whole value)
    (guards : whole → part) : Agree refer other part value :=
  fun name held within below => agree name held within fun guarded => below (guards guarded)

variable {refer other} in
theorem Agree.inside {whole part : Prop} {value inner : Json} (agree : Agree refer other whole value)
    (below : inner.nesting < value.nesting) : Agree refer other part inner :=
  fun name held within _ =>
    agree name held (Nat.le_of_lt (Nat.lt_of_le_of_lt within below)) fun _ =>
      Nat.lt_of_le_of_lt within below

theorem member_below (members : List (String × Json)) (entry : String × Json)
    (listed : entry ∈ members) : entry.2.nesting < (Json.obj members).nesting :=
  Nat.lt_succ_of_le (Json.nesting_member members entry.1 entry.2 listed)

theorem item_below (items : List Json) (item : Json) (listed : item ∈ items) :
    item.nesting < (Json.arr items).nesting :=
  Nat.lt_succ_of_le (Json.nesting_item items item listed)

-- Along the contract, not along the value: with members and items the values get smaller, and the
-- guard no longer counts; with the parts of a keyword the value is the same, and the guard is theirs.
mutual
theorem violations_agree : (contract : Contract) → (value : Json) →
    Agree refer other (Guarded contract) value →
      violations refer contract value = violations other contract value
  | .never, _, _ => rfl
  | .node keywords, value, agree => keywords_agree keywords value agree

theorem keywords_agree : (keywords : List Keyword) → (value : Json) →
    Agree refer other (GuardedKeywords keywords) value →
      keywordsViolations refer keywords value = keywordsViolations other keywords value
  | [], _, _ => rfl
  | keyword :: rest, value, agree => by
      rw [keywordsViolations, keywordsViolations,
        keyword_agree keyword value (agree.part And.left),
        keywords_agree rest value (agree.part And.right)]

theorem keyword_agree : (keyword : Keyword) → (value : Json) →
    Agree refer other (GuardedKeyword keyword) value →
      keywordViolations refer keyword value = keywordViolations other keyword value
  | .properties true known, value, agree => by
      cases value with
      | obj members =>
          have same : (members.map fun entry => knownViolations refer known entry.1 entry.2) =
              members.map fun entry => knownViolations other known entry.1 entry.2 := by
            refine List.map_congr_left fun entry listed => ?_
            exact known_agree known entry.1 entry.2
              (agree.inside (member_below members entry listed))
          simp only [keywordViolations, List.flatMap_def, same]
      | _ => rfl
  | .properties false known, value, agree => by
      cases value with
      | obj members => exact members_agree known members agree
      | _ => rfl
  | .everyMember contract, value, agree => by
      cases value with
      | obj members =>
          simp only [keywordViolations, List.flatMap_def]
          refine congrArg List.flatten (List.map_congr_left fun entry listed => ?_)
          rw [violations_agree contract entry.2 (agree.inside (member_below members entry listed))]
      | _ => rfl
  | .items contract, value, agree => by
      cases value with
      | arr items =>
          simp only [keywordViolations, List.flatMap_def]
          refine congrArg List.flatten (List.map_congr_left fun entry listed => ?_)
          have inside := item_below items entry.1 (List.fst_mem_of_mem_zipIdx listed)
          rw [violations_agree contract entry.1 (agree.inside inside)]
      | _ => rfl
  | .all parts, value, agree => parts_agree parts value agree
  | .exactlyOne options, value, agree => by
      simp only [keywordViolations, satisfied_agree options value agree]
  | .tagged guard consequence, value, agree => by
      simp only [keywordViolations, violations_agree consequence value agree]
  | .definition name, value, agree => agree name value (Nat.le_refl _) False.elim
  | .types _, _, _ => rfl
  | .constants _, _, _ => rfl
  | .notNegative, _, _ => rfl
  | .minLength _, _, _ => rfl
  | .minItems _, _, _ => rfl
  | .required _, _, _ => rfl
  | .segment, _, _ => rfl

theorem known_agree : (known : List (String × Contract)) → (name : String) → (value : Json) →
    Agree refer other False value →
      knownViolations refer known name value = knownViolations other known name value
  | [], _, _, _ => rfl
  | (label, contract) :: rest, name, value, agree => by
      rw [knownViolations, knownViolations, violations_agree contract value (agree.part False.elim),
        known_agree rest name value agree]

theorem members_agree : (known : List (String × Contract)) → (members : List (String × Json)) →
    Agree refer other True (.obj members) →
      memberViolations refer known members = memberViolations other known members
  | [], _, _ => rfl
  | (label, contract) :: rest, members, agree => by
      rw [memberViolations, memberViolations, members_agree rest members agree]
      cases found : Keyed.find? label members with
      | none => rfl
      | some value =>
          have inside := member_below members (label, value)
            (Keyed.find_member label value members found)
          dsimp only
          rw [violations_agree contract value (agree.inside inside)]

theorem parts_agree : (parts : List Contract) → (value : Json) →
    Agree refer other (GuardedParts parts) value →
      partsViolations refer parts value = partsViolations other parts value
  | [], _, _ => rfl
  | part :: rest, value, agree => by
      rw [partsViolations, partsViolations, violations_agree part value (agree.part And.left),
        parts_agree rest value (agree.part And.right)]

theorem satisfied_agree : (options : List Contract) → (value : Json) →
    Agree refer other (GuardedParts options) value →
      satisfied refer options value = satisfied other options value
  | [], _, _ => rfl
  | option :: rest, value, agree => by
      rw [satisfied, satisfied, violations_agree option value (agree.part And.left),
        satisfied_agree rest value (agree.part And.right)]
end

end Agreement

section Depths

variable (definitions : List (String × Contract))
  (guarded : ∀ entry ∈ definitions, Guarded entry.2)

include guarded

/-- A definition means the same at all depths beyond the nesting of the value. -/
theorem follow_enough (depth further : Nat) (name : String) (value : Json)
    (enough : value.nesting < depth) (more : value.nesting < further) :
    follow definitions depth name value = follow definitions further name value := by
  induction depth generalizing further name value with
  | zero => exact absurd enough (Nat.not_lt_zero _)
  | succ depth ih =>
      cases further with
      | zero => exact absurd more (Nat.not_lt_zero _)
      | succ further =>
          rw [follow, follow]
          cases found : Keyed.find? name definitions with
          | none => rfl
          | some contract =>
              have own := guarded (name, contract) (Keyed.find_member name contract _ found)
              apply violations_agree
              intro other held _ below
              have inside := below own
              exact ih further other held (Nat.lt_of_lt_of_le inside (Nat.lt_succ_iff.mp enough))
                (Nat.lt_of_lt_of_le inside (Nat.lt_succ_iff.mp more))

/-- Following a reference as deep as a value above needs it is checking the definition by itself. -/
theorem follow_check (depth : Nat) (name : String) (contract : Contract) (value : Json)
    (found : Keyed.find? name definitions = some contract) (enough : value.nesting < depth) :
    follow definitions depth name value = check definitions contract value := by
  have far : value.nesting < value.nesting + 2 := by omega
  rw [follow_enough definitions guarded depth _ name value enough far, follow, found]
  rfl

end Depths

end FormEngine.Contract
