import FormEngine.Json.Basic
import FormEngine.Proofs.Keyed

/-!
Equality, nesting and order of JSON values, read off item by item and member by member.
-/

namespace FormEngine.Json

section Equality

mutual
theorem eq_of_beq : (left right : Json) → beq left right = true → left = right
  | .null, .null, _ => rfl
  | .bool _, .bool _, same => by rw [LawfulBEq.eq_of_beq same]
  | .num _, .num _, same => by rw [LawfulBEq.eq_of_beq same]
  | .str _, .str _, same => by rw [LawfulBEq.eq_of_beq same]
  | .arr lefts, .arr rights, same => by rw [items_eq_of_beq lefts rights same]
  | .obj lefts, .obj rights, same => by rw [members_eq_of_beq lefts rights same]

theorem items_eq_of_beq : (lefts rights : List Json) → beqItems lefts rights = true →
    lefts = rights
  | [], [], _ => rfl
  | left :: lefts, right :: rights, same => by
      obtain ⟨first, rest⟩ := Bool.and_eq_true_iff.mp same
      rw [eq_of_beq left right first, items_eq_of_beq lefts rights rest]

theorem members_eq_of_beq : (lefts rights : List (String × Json)) →
    beqMembers lefts rights = true → lefts = rights
  | [], [], _ => rfl
  | (name, left) :: lefts, (label, right) :: rights, same => by
      obtain ⟨front, rest⟩ := Bool.and_eq_true_iff.mp same
      obtain ⟨names, first⟩ := Bool.and_eq_true_iff.mp front
      rw [LawfulBEq.eq_of_beq names, eq_of_beq left right first,
        members_eq_of_beq lefts rights rest]
end

mutual
theorem beq_self : (value : Json) → beq value value = true
  | .null => rfl
  | .bool _ => BEq.rfl
  | .num _ => BEq.rfl
  | .str _ => BEq.rfl
  | .arr items => items_beq_self items
  | .obj members => members_beq_self members

theorem items_beq_self : (items : List Json) → beqItems items items = true
  | [] => rfl
  | item :: rest => Bool.and_eq_true_iff.mpr ⟨beq_self item, items_beq_self rest⟩

theorem members_beq_self : (members : List (String × Json)) → beqMembers members members = true
  | [] => rfl
  | (_, value) :: rest => by
      simp only [beqMembers, beq_self value, members_beq_self rest, BEq.rfl, Bool.and_self]
end

instance : LawfulBEq Json where
  eq_of_beq same := eq_of_beq _ _ same
  rfl := beq_self _

instance : DecidableEq Json := instDecidableEqOfLawfulBEq

end Equality

theorem nesting_item (items : List Json) (item : Json) (present : item ∈ items) :
    item.nesting ≤ nestingItems items := by
  induction items with
  | nil => simp at present
  | cons first rest ih =>
      rcases List.mem_cons.mp present with same | later
      · subst first
        exact Nat.le_max_left _ _
      · exact Nat.le_trans (ih later) (Nat.le_max_right _ _)

theorem nesting_items_le (items : List Json) (bound : Nat)
    (each : ∀ item ∈ items, item.nesting ≤ bound) : nestingItems items ≤ bound := by
  induction items with
  | nil => exact Nat.zero_le bound
  | cons first rest ih =>
      obtain ⟨head, tail⟩ := List.forall_mem_cons.mp each
      exact Nat.max_le.mpr ⟨head, ih tail⟩

theorem nesting_members_le (members : List (String × Json)) (bound : Nat)
    (each : ∀ member ∈ members, member.2.nesting ≤ bound) : nestingMembers members ≤ bound := by
  induction members with
  | nil => exact Nat.zero_le bound
  | cons first rest ih =>
      obtain ⟨head, tail⟩ := List.forall_mem_cons.mp each
      exact Nat.max_le.mpr ⟨head, ih tail⟩

theorem nesting_member (members : List (String × Json)) (name : String) (value : Json)
    (present : (name, value) ∈ members) : value.nesting ≤ nestingMembers members := by
  induction members with
  | nil => simp at present
  | cons first rest ih =>
      obtain ⟨label, held⟩ := first
      rcases List.mem_cons.mp present with same | later
      · cases same
        exact Nat.le_max_left _ _
      · exact Nat.le_trans (ih later) (Nat.le_max_right _ _)

section Order

mutual
/-- Members stand in key order at every level, each key once. -/
def Ordered : Json → Prop
  | .arr items => OrderedItems items
  | .obj members => Keyed.Sorted members ∧ OrderedMembers members
  | _ => True

def OrderedItems : List Json → Prop
  | [] => True
  | item :: rest => Ordered item ∧ OrderedItems rest

def OrderedMembers : List (String × Json) → Prop
  | [] => True
  | (_, value) :: rest => Ordered value ∧ OrderedMembers rest
end

mutual
theorem WellFormed.ordered : (value : Json) → value.WellFormed → value.Ordered
  | .null, _ => trivial
  | .bool _, _ => trivial
  | .num _, _ => trivial
  | .str _, _ => trivial
  | .arr items, wellFormed => WellFormedItems.ordered items wellFormed
  | .obj members, wellFormed =>
      ⟨wellFormed.1, WellFormedMembers.ordered members wellFormed.2⟩

theorem WellFormedItems.ordered : (items : List Json) → WellFormedItems items →
    OrderedItems items
  | [], _ => trivial
  | item :: rest, wellFormed =>
      ⟨WellFormed.ordered item wellFormed.1, WellFormedItems.ordered rest wellFormed.2⟩

theorem WellFormedMembers.ordered : (members : List (String × Json)) →
    WellFormedMembers members → OrderedMembers members
  | [], _ => trivial
  | (_, value) :: rest, wellFormed =>
      ⟨WellFormed.ordered value wellFormed.1, WellFormedMembers.ordered rest wellFormed.2⟩
end

theorem ordered_items_iff (items : List Json) :
    OrderedItems items ↔ ∀ item ∈ items, item.Ordered := by
  induction items with
  | nil => simp [OrderedItems]
  | cons item rest ih => simp [OrderedItems, ih]

theorem ordered_members_iff (members : List (String × Json)) :
    OrderedMembers members ↔ ∀ member ∈ members, member.2.Ordered := by
  induction members with
  | nil => simp [OrderedMembers]
  | cons member rest ih => simp [OrderedMembers, ih]

theorem ordered_item (items : List Json) (ordered : OrderedItems items) (item : Json)
    (present : item ∈ items) : item.Ordered :=
  (ordered_items_iff items).mp ordered item present

theorem ordered_member (members : List (String × Json)) (ordered : OrderedMembers members)
    (name : String) (value : Json) (present : (name, value) ∈ members) : value.Ordered :=
  (ordered_members_iff members).mp ordered (name, value) present

end Order

end FormEngine.Json
