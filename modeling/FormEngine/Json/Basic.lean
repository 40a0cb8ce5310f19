import FormEngine.Keyed
import FormEngine.Number.Binary64

/-!
JSON values. A number is an integer of 64 bits, signed or unsigned, or a binary floating number;
which of the two is decided by how it was written. An object holds its members in increasing key
order, one per key.
-/

namespace FormEngine

inductive Json.Number where
  | integer (value : Int)
  | floating (negative : Bool) (magnitude : Number.Binary64)
  deriving DecidableEq

inductive Json where
  | null
  | bool (flag : Bool)
  | num (number : Json.Number)
  | str (text : String)
  | arr (items : List Json)
  | obj (members : List (String × Json))

namespace Json

instance : Inhabited Json := ⟨.null⟩

def ofNat (value : Nat) : Json := .num (.integer value)

def ofOption {Value : Type} (encode : Value → Json) : Option Value → Json
  | none => .null
  | some value => encode value

/-- Members given in any order; the last one under a key is kept. -/
def ofMembers (members : List (String × Json)) : Json := .obj (Keyed.ofList members)

def get? (key : String) : Json → Option Json
  | .obj members => Keyed.find? key members
  | _ => none

mutual
def beq : Json → Json → Bool
  | .null, .null => true
  | .bool left, .bool right => left == right
  | .num left, .num right => left == right
  | .str left, .str right => left == right
  | .arr left, .arr right => beqItems left right
  | .obj left, .obj right => beqMembers left right
  | _, _ => false

def beqItems : List Json → List Json → Bool
  | [], [] => true
  | left :: lefts, right :: rights => beq left right && beqItems lefts rights
  | _, _ => false

def beqMembers : List (String × Json) → List (String × Json) → Bool
  | [], [] => true
  | (name, left) :: lefts, (label, right) :: rights =>
      name == label && beq left right && beqMembers lefts rights
  | _, _ => false
end

instance : BEq Json := ⟨beq⟩

mutual
/-- How deep arrays and objects nest; a scalar has nesting zero. -/
def nesting : Json → Nat
  | .arr items => nestingItems items + 1
  | .obj members => nestingMembers members + 1
  | _ => 0

def nestingItems : List Json → Nat
  | [] => 0
  | item :: rest => max (nesting item) (nestingItems rest)

def nestingMembers : List (String × Json) → Nat
  | [] => 0
  | (_, value) :: rest => max (nesting value) (nestingMembers rest)
end

/-- An integer that fits neither the signed nor the unsigned 64-bit range is never built. -/
def Number.InRange : Json.Number → Prop
  | .integer value => -(Nat.pow 2 63 : Int) ≤ value ∧ value < (Nat.pow 2 64 : Int)
  | .floating _ magnitude => magnitude.Canonical

mutual
/-- What every reader of JSON text produces: numbers in range and members in key order. -/
def WellFormed : Json → Prop
  | .num number => number.InRange
  | .arr items => WellFormedItems items
  | .obj members => Keyed.Sorted members ∧ WellFormedMembers members
  | _ => True

def WellFormedItems : List Json → Prop
  | [] => True
  | item :: rest => WellFormed item ∧ WellFormedItems rest

def WellFormedMembers : List (String × Json) → Prop
  | [] => True
  | (_, value) :: rest => WellFormed value ∧ WellFormedMembers rest
end

end Json

end FormEngine
