import FormEngine.Proofs.Contract.Laws
import FormEngine.Proofs.Json.Pointer
import FormEngine.Proofs.Json.Structure

/-!
Where a contract finds violations: each is at a node of the value that was checked. Most keywords
look at the value itself only; the others pass what they find below a member or an item on.
-/

namespace FormEngine

/-- What the keyword objects to, it objects to at the value itself. -/
def Keyword.looksHere : Keyword → Bool
  | .properties _ _ | .everyMember _ | .items _ | .all _ | .tagged _ _ | .definition _ => false
  | _ => true

def Contract.looksHere : Contract → Bool
  | .never => true
  | .node keywords => keywords.all Keyword.looksHere

namespace Contract

/-- The places are those of nodes of the value. -/
def Located (value : Json) (found : List Violation) : Prop :=
  ∀ violation ∈ found, (violation.place.resolve? value).isSome

section Located

variable (value : Json)

theorem located_none : Located value [] := fun _ listed => nomatch listed

theorem located_append (left right : List Violation) (first : Located value left)
    (second : Located value right) : Located value (left ++ right) :=
  List.forall_mem_append.mpr ⟨first, second⟩

theorem located_below (step : Json.Step) (inner : Json) (found : List Violation)
    (enters : Json.Pointer.enter? step value = some inner) (located : Located inner found) :
    Located value (found.map (.below step)) := by
  intro violation listed
  obtain ⟨source, member, rfl⟩ := List.mem_map.mp listed
  rw [Violation.below, Json.Pointer.resolve_cons, enters]
  exact located source member

theorem located_flat_map {Part : Type} (parts : List Part) (find : Part → List Violation)
    (each : ∀ part ∈ parts, Located value (find part)) : Located value (parts.flatMap find) := by
  intro violation listed
  obtain ⟨part, member, inside⟩ := List.mem_flatMap.mp listed
  exact each part member violation inside

end Located

variable (refer : String → Json → List Violation)

section Here

/-- All that is found is found at the value itself. -/
def Here (found : List Violation) : Prop := ∀ violation ∈ found, violation.place = []

theorem here_none : Here [] := fun _ listed => nomatch listed

theorem here_one (fault : Fault) : Here [⟨[], fault⟩] :=
  fun _ listed => List.mem_singleton.mp listed ▸ rfl

theorem keyword_here (keyword : Keyword) (here : keyword.looksHere = true) (value : Json) :
    Here (keywordViolations refer keyword value) := by
  cases keyword with
  | properties => cases here
  | everyMember => cases here
  | items => cases here
  | all => cases here
  | tagged => cases here
  | definition => cases here
  | required names =>
      unfold keywordViolations
      split
      · intro violation listed
        obtain ⟨name, _, rfl⟩ := List.mem_map.mp listed
        rfl
      · exact here_none
  | _ =>
      unfold keywordViolations
      repeat' split
      all_goals first | exact here_none | exact here_one _

theorem contract_here (contract : Contract) (here : contract.looksHere = true) (value : Json) :
    Here (violations refer contract value) := by
  cases contract with
  | never => exact here_one _
  | node keywords =>
      rw [violations]
      induction keywords with
      | nil => exact here_none
      | cons keyword rest ih =>
          obtain ⟨first, later⟩ := Bool.and_eq_true_iff.mp here
          exact List.forall_mem_append.mpr ⟨keyword_here refer keyword first value, ih later⟩

theorem here_located (value : Json) (found : List Violation) (here : Here found) :
    Located value found := by
  intro violation listed
  rw [here violation listed]
  rfl

end Here

section Everywhere

/-- What references stand for finds its violations at nodes. -/
def Refers : Prop := ∀ name value, value.Ordered → Located value (refer name value)

theorem keyword_located_here (keyword : Keyword) (here : keyword.looksHere = true) (value : Json) :
    Located value (keywordViolations refer keyword value) :=
  here_located value _ (keyword_here refer keyword here value)

-- Along the contract. A member or an item comes with the step that enters it, so the places below it
-- are places of the whole value; members are found by their keys because the keys are sorted.
mutual
theorem violations_located (referred : Refers refer) : (contract : Contract) →
    (value : Json) → value.Ordered → Located value (violations refer contract value)
  | .never, value, _ => here_located value _ (here_one _)
  | .node keywords, value, ordered => keywords_located referred keywords value ordered

theorem keywords_located (referred : Refers refer) : (keywords : List Keyword) →
    (value : Json) → value.Ordered → Located value (keywordsViolations refer keywords value)
  | [], value, _ => located_none value
  | keyword :: rest, value, ordered =>
      located_append value _ _ (keyword_located referred keyword value ordered)
        (keywords_located referred rest value ordered)

theorem keyword_located (referred : Refers refer) : (keyword : Keyword) →
    (value : Json) → value.Ordered → Located value (keywordViolations refer keyword value)
  | .properties true known, value, ordered => by
      unfold keywordViolations
      split
      · rename_i members
        apply located_append
        · apply located_flat_map
          intro member listed
          have found := Keyed.sorted_find member.1 member.2 members ordered.1 listed
          exact known_located referred known member.1 member.2 _ found
            (Json.ordered_member members ordered.2 member.1 member.2 listed)
        · split
          · exact located_none _
          · exact here_located _ _ (here_one _)
      · exact located_none _
  | .properties false known, value, ordered => by
      unfold keywordViolations
      split
      · exact members_located referred known _ ordered
      · exact located_none _
  | .everyMember contract, value, ordered => by
      unfold keywordViolations
      split
      · rename_i members
        apply located_flat_map
        intro member listed
        have found := Keyed.sorted_find member.1 member.2 members ordered.1 listed
        exact located_below _ (.key member.1) member.2 _ found
          (violations_located referred contract member.2
            (Json.ordered_member members ordered.2 member.1 member.2 listed))
      · exact located_none _
  | .items contract, value, ordered => by
      unfold keywordViolations
      split
      · rename_i items
        apply located_flat_map
        intro entry listed
        have found := List.mem_zipIdx_iff_getElem?.mp listed
        exact located_below _ (.index entry.2) entry.1 _ found
          (violations_located referred contract entry.1
            (Json.ordered_item items ordered entry.1 (List.fst_mem_of_mem_zipIdx listed)))
      · exact located_none _
  | .all parts, value, ordered => by
      rw [keywordViolations]
      exact parts_located referred parts value ordered
  | .tagged guard consequence, value, ordered => by
      rw [keywordViolations]
      split
      · exact violations_located referred consequence value ordered
      · exact located_none value
  | .definition name, value, ordered => by
      rw [keywordViolations]
      exact referred name value ordered
  | .types kinds, value, _ => keyword_located_here refer (.types kinds) rfl value
  | .constants texts, value, _ => keyword_located_here refer (.constants texts) rfl value
  | .notNegative, value, _ => keyword_located_here refer .notNegative rfl value
  | .minLength length, value, _ => keyword_located_here refer (.minLength length) rfl value
  | .minItems count, value, _ => keyword_located_here refer (.minItems count) rfl value
  | .required names, value, _ => keyword_located_here refer (.required names) rfl value
  | .segment, value, _ => keyword_located_here refer .segment rfl value
  | .exactlyOne options, value, _ => keyword_located_here refer (.exactlyOne options) rfl value

theorem known_located (referred : Refers refer) : (known : List (String × Contract)) →
    (name : String) → (inner value : Json) → Json.Pointer.enter? (.key name) value = some inner →
      inner.Ordered → Located value (knownViolations refer known name inner)
  | [], _, _, value, _, _ => located_none value
  | (label, contract) :: rest, name, inner, value, enters, ordered => by
      rw [knownViolations]
      split
      · exact located_below value (.key name) inner _ enters
          (violations_located referred contract inner ordered)
      · exact known_located referred rest name inner value enters ordered

theorem members_located (referred : Refers refer) : (known : List (String × Contract)) →
    (members : List (String × Json)) → (Json.obj members).Ordered →
      Located (.obj members) (memberViolations refer known members)
  | [], members, _ => located_none (.obj members)
  | (label, contract) :: rest, members, ordered => by
      rw [memberViolations]
      apply located_append
      · split
        · rename_i inner found
          have present := Keyed.find_member label inner members found
          exact located_below _ (.key label) inner _ found
            (violations_located referred contract inner
              (Json.ordered_member members ordered.2 label inner present))
        · exact located_none _
      · exact members_located referred rest members ordered

theorem parts_located (referred : Refers refer) : (parts : List Contract) →
    (value : Json) → value.Ordered → Located value (partsViolations refer parts value)
  | [], value, _ => located_none value
  | part :: rest, value, ordered =>
      located_append value _ _ (violations_located referred part value ordered)
        (parts_located referred rest value ordered)
end

end Everywhere

end Contract

end FormEngine
