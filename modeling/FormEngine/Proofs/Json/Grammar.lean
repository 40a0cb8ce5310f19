import FormEngine.Json.Reader
import FormEngine.Proofs.Json.Structure
import FormEngine.Proofs.Json.Scan

/-!
The grammar of JSON text. A text spells a tree: a value in which every object keeps its members as
they were written, a name as often as it occurs. The value that the text stands for is the settled
tree, with members in key order and under each name the last one.

Numbers and escapes are what their readers take, and what nests is said here. A scan for brackets
sees just the nesting of the tree.
-/

namespace FormEngine.Json

section Trees

mutual
/-- Of the members under one name the last one is kept, at every level. -/
def settled : Json → Json
  | .null => .null
  | .bool flag => .bool flag
  | .num number => .num number
  | .str text => .str text
  | .arr items => .arr (settledItems items)
  | .obj members => .obj (Keyed.ofList (settledMembers members))

def settledItems : List Json → List Json
  | [] => []
  | item :: rest => settled item :: settledItems rest

def settledMembers : List (String × Json) → List (String × Json)
  | [] => []
  | (name, value) :: rest => (name, settled value) :: settledMembers rest
end

theorem settled_member (members : List (String × Json)) (name : String) (value : Json)
    (present : (name, value) ∈ Keyed.ofList (settledMembers members)) :
    (name, value) ∈ settledMembers members := Keyed.mem_of_list _ (name, value) present

mutual
theorem settled_ordered : (tree : Json) → tree.settled.Ordered
  | .null => trivial
  | .bool _ => trivial
  | .num _ => trivial
  | .str _ => trivial
  | .arr items => settled_items_ordered items
  | .obj members => by
      have each := (ordered_members_iff _).mp (settled_members_ordered members)
      refine ⟨Keyed.of_list_sorted _, (ordered_members_iff _).mpr fun member present => ?_⟩
      exact each member (settled_member members member.1 member.2 present)

theorem settled_items_ordered : (items : List Json) → OrderedItems (settledItems items)
  | [] => trivial
  | item :: rest => ⟨settled_ordered item, settled_items_ordered rest⟩

theorem settled_members_ordered : (members : List (String × Json)) →
    OrderedMembers (settledMembers members)
  | [] => trivial
  | (_, value) :: rest => ⟨settled_ordered value, settled_members_ordered rest⟩
end

mutual
theorem settled_nesting : (tree : Json) → tree.settled.nesting ≤ tree.nesting
  | .null => Nat.le_refl _
  | .bool _ => Nat.le_refl _
  | .num _ => Nat.le_refl _
  | .str _ => Nat.le_refl _
  | .arr items => Nat.succ_le_succ (settled_items_nesting items)
  | .obj members => by
      have inside := settled_members_nesting members
      refine Nat.succ_le_succ (nesting_members_le _ _ fun member present => ?_)
      exact Nat.le_trans (nesting_member _ member.1 member.2
        (settled_member members member.1 member.2 present)) inside

theorem settled_items_nesting : (items : List Json) →
    nestingItems (settledItems items) ≤ nestingItems items
  | [] => Nat.le_refl _
  | item :: rest => by
      have head := settled_nesting item
      have tail := settled_items_nesting rest
      simp only [settledItems, nestingItems]
      omega

theorem settled_members_nesting : (members : List (String × Json)) →
    nestingMembers (settledMembers members) ≤ nestingMembers members
  | [] => Nat.le_refl _
  | (_, value) :: rest => by
      have head := settled_nesting value
      have tail := settled_members_nesting rest
      simp only [settledMembers, nestingMembers]
      omega
end

end Trees

/-- What stands between an opening quote and what follows the closing one. -/
inductive Literal : List Char → List Char → List Char → Prop where
  | close (rest : List Char) : Literal [] ('"' :: rest) rest
  | plain (char : Char) (chars input rest : List Char) (notQuote : char ≠ '"')
      (notBackslash : char ≠ '\\') (visible : 32 ≤ char.toNat) (later : Literal chars input rest) :
      Literal (char :: chars) (char :: input) rest
  | escape (char : Char) (chars input middle rest : List Char)
      (escaped : readEscape input = .ok (char, middle)) (later : Literal chars middle rest) :
      Literal (char :: chars) ('\\' :: input) rest

/-- A stretch of text spells a value, or what a list or an object still holds, with its closing
bracket. `first` says that nothing stands before it inside the brackets. -/
inductive Part where
  | value (tree : Json)
  | items (first : Bool) (trees : List Json)
  | members (first : Bool) (trees : List (String × Json))

/-- A comma stands between two items or members. -/
def Separated (first : Bool) (input rest : List Char) : Prop :=
  if first then rest = input else skipBlanks input = ',' :: rest

/-- The text up to `rest` spells the part. -/
inductive Spells : Part → List Char → List Char → Prop where
  | null (input rest : List Char) (start : skipBlanks input = 'n' :: 'u' :: 'l' :: 'l' :: rest) :
      Spells (.value .null) input rest
  | yes (input rest : List Char) (start : skipBlanks input = 't' :: 'r' :: 'u' :: 'e' :: rest) :
      Spells (.value (.bool true)) input rest
  | no (input rest : List Char)
      (start : skipBlanks input = 'f' :: 'a' :: 'l' :: 's' :: 'e' :: rest) :
      Spells (.value (.bool false)) input rest
  | negative (number : Json.Number) (input inner rest : List Char)
      (start : skipBlanks input = '-' :: inner) (read : readNumber true inner = .ok (number, rest)) :
      Spells (.value (.num number)) input rest
  | number (number : Json.Number) (char : Char) (input inner rest : List Char)
      (start : skipBlanks input = char :: inner) (digit : (digit? char).isSome = true)
      (read : readNumber false (char :: inner) = .ok (number, rest)) :
      Spells (.value (.num number)) input rest
  | str (chars input inner rest : List Char) (start : skipBlanks input = '"' :: inner)
      (literal : Literal chars inner rest) : Spells (.value (.str (String.ofList chars))) input rest
  | arr (trees : List Json) (input inner rest : List Char)
      (start : skipBlanks input = '[' :: inner) (inside : Spells (.items true trees) inner rest) :
      Spells (.value (.arr trees)) input rest
  | obj (trees : List (String × Json)) (input inner rest : List Char)
      (start : skipBlanks input = '\x7b' :: inner)
      (inside : Spells (.members true trees) inner rest) :
      Spells (.value (.obj trees)) input rest
  | noItem (first : Bool) (input rest : List Char) (start : skipBlanks input = ']' :: rest) :
      Spells (.items first []) input rest
  | item (first : Bool) (tree : Json) (trees : List Json) (input inner middle rest : List Char)
      (apart : Separated first input inner) (head : Spells (.value tree) inner middle)
      (later : Spells (.items false trees) middle rest) :
      Spells (.items first (tree :: trees)) input rest
  | noMember (first : Bool) (input rest : List Char) (start : skipBlanks input = '\x7d' :: rest) :
      Spells (.members first []) input rest
  | member (first : Bool) (chars : List Char) (tree : Json) (trees : List (String × Json))
      (input spaced inner named held middle rest : List Char)
      (apart : Separated first input spaced) (start : skipBlanks spaced = '"' :: inner)
      (literal : Literal chars inner named) (colon : skipBlanks named = ':' :: held)
      (head : Spells (.value tree) held middle) (later : Spells (.members false trees) middle rest) :
      Spells (.members first ((String.ofList chars, tree) :: trees)) input rest

/-- The whole text spells the tree, with blanks around it. -/
def Spelled (tree : Json) (text : String) : Prop :=
  ∃ rest, Spells (.value tree) text.toList rest ∧ skipBlanks rest = []

section Scanning

/-- How many brackets are open around a part beside those around its list or object. -/
def Part.level : Part → Nat
  | .value _ => 0
  | .items _ _ => 1
  | .members _ _ => 1

def Part.nesting : Part → Nat
  | .value tree => tree.nesting
  | .items _ trees => nestingItems trees
  | .members _ trees => nestingMembers trees

variable (limit : Nat)

theorem scan_literal (chars input rest : List Char) (literal : Literal chars input rest)
    (depth : Nat) :
    nestingReachesFrom limit .inString depth input =
      nestingReachesFrom limit .outside depth rest := by
  induction literal with
  | close rest => simp [nestingReachesFrom]
  | plain char chars input rest notQuote notBackslash _ _ ih =>
      rw [passes_inside_plain char input notQuote notBackslash, ih]
  | escape char chars input middle rest escaped _ ih =>
      simp only [nestingReachesFrom, ↓reduceIte]
      rw [passes_escape char input middle escaped, ih]

theorem scan_separated (first : Bool) (input rest : List Char)
    (apart : Separated first input rest) (depth : Nat) :
    nestingReachesFrom limit .outside depth input =
      nestingReachesFrom limit .outside depth rest := by
  cases first with
  | true => simp only [show rest = input from apart]
  | false =>
      have comma : skipBlanks input = ',' :: rest := apart
      rw [passes_blanks input, comma]
      exact passes_plain ',' rest (by simp [Plain, isOpening, isClosing]) limit depth

-- An opening bracket alone may reach the limit, and then the nesting behind it does as well.
theorem scan_opening (bracket : Char) (inner rest : List Char) (depth deep : Nat)
    (opening : isOpening bracket = true)
    (inside : depth + 1 < limit → nestingReachesFrom limit .outside (depth + 1) inner =
      (decide (limit ≤ depth + 1 + deep) || nestingReachesFrom limit .outside depth rest)) :
    nestingReachesFrom limit .outside depth (bracket :: inner) =
      (decide (limit ≤ depth + (deep + 1)) || nestingReachesFrom limit .outside depth rest) := by
  have notQuote : bracket ≠ '"' := by
    rintro rfl
    simp [isOpening] at opening
  by_cases full : limit ≤ depth + 1
  · have deeper : limit ≤ depth + (deep + 1) := by omega
    simp [nestingReachesFrom, notQuote, opening, full, deeper]
  · have same : depth + 1 + deep = depth + (deep + 1) := by omega
    simp [nestingReachesFrom, notQuote, opening, full, inside (Nat.lt_of_not_le full), same]

theorem scan_closing (bracket : Char) (rest : List Char) (depth : Nat) (below : depth + 1 < limit)
    (closing : isClosing bracket = true) :
    nestingReachesFrom limit .outside (depth + 1) (bracket :: rest) =
      (decide (limit ≤ depth + 1 + 0) || nestingReachesFrom limit .outside depth rest) := by
  have shallow : ¬ limit ≤ depth + 1 := Nat.not_le.mpr below
  have cases : bracket = ']' ∨ bracket = '\x7d' := by simpa [isClosing] using closing
  rcases cases with rfl | rfl <;> simp [nestingReachesFrom, isOpening, isClosing, shallow]

theorem scan_both (depth deep deeper : Nat) (later : Bool) :
    (decide (limit ≤ depth + deep) || (decide (limit ≤ depth + deeper) || later)) =
      (decide (limit ≤ depth + max deep deeper) || later) := by
  have either : limit ≤ depth + max deep deeper ↔
      limit ≤ depth + deep ∨ limit ≤ depth + deeper := by omega
  simp [either, ← Bool.or_assoc]

theorem scan_shallow (depth : Nat) (below : depth < limit) (later : Bool) :
    later = (decide (limit ≤ depth + 0) || later) := by
  simp [Nat.not_le.mpr below]

/-- A scan of what is spelled reaches a limit where the tree nests up to it, or else later. -/
theorem spells_scan (part : Part) (input rest : List Char) (spells : Spells part input rest)
    (depth : Nat) (below : depth + part.level < limit) :
    nestingReachesFrom limit .outside (depth + part.level) input =
      (decide (limit ≤ depth + part.level + part.nesting) ||
        nestingReachesFrom limit .outside depth rest) := by
  induction spells generalizing depth with
  | null input rest start =>
      have passed : Passes ('n' :: 'u' :: 'l' :: 'l' :: rest) rest := fun _ _ => by
        simp [nestingReachesFrom, isOpening, isClosing]
      rw [passes_blanks input, start, Part.level, passed]
      exact scan_shallow limit depth below _
  | yes input rest start =>
      have passed : Passes ('t' :: 'r' :: 'u' :: 'e' :: rest) rest := fun _ _ => by
        simp [nestingReachesFrom, isOpening, isClosing]
      rw [passes_blanks input, start, Part.level, passed]
      exact scan_shallow limit depth below _
  | no input rest start =>
      have passed : Passes ('f' :: 'a' :: 'l' :: 's' :: 'e' :: rest) rest := fun _ _ => by
        simp [nestingReachesFrom, isOpening, isClosing]
      rw [passes_blanks input, start, Part.level, passed]
      exact scan_shallow limit depth below _
  | negative number input inner rest start read =>
      have minus : Plain '-' := by simp [Plain, isOpening, isClosing]
      have passed := passes_cons '-' inner rest minus (passes_number true number inner rest read)
      rw [passes_blanks input, start, Part.level, passed]
      exact scan_shallow limit depth below _
  | number number char input inner rest start digit read =>
      rw [passes_blanks input, start, Part.level, passes_number false number _ rest read]
      exact scan_shallow limit depth below _
  | str chars input inner rest start literal =>
      have opened : nestingReachesFrom limit .outside depth ('"' :: inner) =
          nestingReachesFrom limit .inString depth inner := by
        simp [nestingReachesFrom]
      rw [passes_blanks input, start, Part.level, Nat.add_zero, opened,
        scan_literal limit chars inner rest literal]
      exact scan_shallow limit depth below _
  | arr trees input inner rest start _ ih =>
      rw [passes_blanks input, start]
      exact scan_opening limit '[' inner rest depth (nestingItems trees) rfl fun room =>
        ih depth room
  | obj trees input inner rest start _ ih =>
      rw [passes_blanks input, start]
      exact scan_opening limit '\x7b' inner rest depth (nestingMembers trees) rfl fun room =>
        ih depth room
  | noItem first input rest start =>
      rw [passes_blanks input, start]
      exact scan_closing limit ']' rest depth below rfl
  | item first tree trees input inner middle rest apart _ _ ihHead ihLater =>
      rw [scan_separated limit first input inner apart, Part.level]
      have here := ihHead (depth + 1) below
      have others := ihLater depth below
      simp only [Part.level, Part.nesting, Nat.add_zero] at here others
      rw [here, others]
      exact scan_both limit (depth + 1) tree.nesting (nestingItems trees) _
  | noMember first input rest start =>
      rw [passes_blanks input, start]
      exact scan_closing limit '\x7d' rest depth below rfl
  | member first chars tree trees input spaced inner named held middle rest apart start literal
      colon _ _ ihHead ihLater =>
      have opened : nestingReachesFrom limit .outside (depth + 1) ('"' :: inner) =
          nestingReachesFrom limit .inString (depth + 1) inner := by
        simp [nestingReachesFrom]
      have valued := passes_plain ':' held (by simp [Plain, isOpening, isClosing]) limit (depth + 1)
      rw [scan_separated limit first input spaced apart, Part.level, passes_blanks spaced, start,
        opened, scan_literal limit chars inner named literal, passes_blanks named, colon, valued]
      have here := ihHead (depth + 1) below
      have others := ihLater depth below
      simp only [Part.level, Part.nesting, Nat.add_zero] at here others
      rw [here, others]
      exact scan_both limit (depth + 1) tree.nesting (nestingMembers trees) _

end Scanning

end FormEngine.Json
