import FormEngine.Proofs.Json.Characters
import FormEngine.Proofs.Json.Scan

/-!
A scan of printed text counts the brackets of the value and no others: numbers have none, and those
in strings stand inside literals.
-/

namespace FormEngine.Json

section Leaves

theorem plain_in_numbers (char : Char) (used : InNumbers char) : Plain char := by
  rcases used with digit | mark
  · apply plain_digit
    have bounds : '0' ≤ char ∧ char ≤ '9' := by
      simpa [Char.isDigit, Char.le_def] using digit
    simp [digit?, bounds]
  · have marks : ∀ mark ∈ ['.', 'e', '+', '-'],
        mark ≠ '"' ∧ isOpening mark = false ∧ isClosing mark = false := by
      simp [isOpening, isClosing]
    exact marks char mark

theorem plain_number (number : Json.Number) : ∀ char ∈ number.text, Plain char :=
  fun char listed => plain_in_numbers char (number_in_numbers number char listed)

theorem hex_digit_inside (value : Nat) (small : value < 16) (rest : List Char) :
    PassesInside (hexDigit value :: rest) rest := by
  have other : ∀ value < 16, hexDigit value ≠ '"' ∧ hexDigit value ≠ '\\' := by decide
  exact passes_inside_plain _ rest (other value small).1 (other value small).2

theorem escaped_inside (char : Char) (rest : List Char) :
    PassesInside (escaped char ++ rest) rest := by
  intro limit depth
  unfold escaped
  split
  · simp [nestingReachesFrom]
  split
  · simp [nestingReachesFrom]
  split
  · rename_i notQuote notBackslash _
    exact passes_inside_plain char rest notQuote notBackslash limit depth
  rename_i control
  iterate 5
    split
    · simp [nestingReachesFrom]
  have high : char.toNat / 16 < 16 := by omega
  have low : char.toNat % 16 < 16 := Nat.mod_lt _ (by decide)
  have digits := (hex_digit_inside _ high (hexDigit (char.toNat % 16) :: rest) limit depth).trans
    (hex_digit_inside _ low rest limit depth)
  simpa [nestingReachesFrom] using digits

theorem scan_quoted (limit depth : Nat) (text : String) (rest : List Char) :
    nestingReachesFrom limit .outside depth (quoted text ++ rest) =
      nestingReachesFrom limit .outside depth rest := by
  have inside : ∀ chars : List Char,
      nestingReachesFrom limit .inString depth (chars.flatMap escaped ++ '"' :: rest) =
        nestingReachesFrom limit .outside depth rest := by
    intro chars
    induction chars with
    | nil => simp [nestingReachesFrom]
    | cons char others ih =>
        rw [List.flatMap_cons, List.append_assoc, escaped_inside, ih]
  simpa [quoted, nestingReachesFrom] using inside text.toList

end Leaves

section Values

variable (limit : Nat)

theorem scan_flat (taken rest : List Char) (depth : Nat) (below : depth < limit)
    (plain : ∀ char ∈ taken, Plain char) :
    nestingReachesFrom limit .outside depth (taken ++ rest) =
      (decide (limit ≤ depth + 0) || nestingReachesFrom limit .outside depth rest) := by
  rw [passes_all taken rest plain limit depth]
  simp [Nat.not_le.mpr below]

-- Inside a bracket the scan is one level deeper; where that reaches the limit, the value does too.
theorem scan_bracketed (opening closing : Char) (inner rest : List Char) (depth deep : Nat)
    (opens : isOpening opening = true) (closes : isClosing closing = true)
    (scanned : depth + 1 < limit →
      nestingReachesFrom limit .outside (depth + 1) (inner ++ closing :: rest) =
        (decide (limit ≤ depth + 1 + deep) ||
          nestingReachesFrom limit .outside (depth + 1) (closing :: rest))) :
    nestingReachesFrom limit .outside depth (opening :: (inner ++ closing :: rest)) =
      (decide (limit ≤ depth + (deep + 1)) || nestingReachesFrom limit .outside depth rest) := by
  have openingQuote : opening ≠ '"' := by
    rintro rfl
    simp [isOpening] at opens
  have closingQuote : closing ≠ '"' := by
    rintro rfl
    simp [isClosing] at closes
  have closingOnly : isOpening closing = false := by
    have cases : closing = ']' ∨ closing = '\x7d' := by simpa [isClosing] using closes
    rcases cases with rfl | rfl <;> rfl
  have entered : nestingReachesFrom limit .outside depth (opening :: (inner ++ closing :: rest)) =
      (decide (limit ≤ depth + 1) ||
        nestingReachesFrom limit .outside (depth + 1) (inner ++ closing :: rest)) := by
    by_cases full : limit ≤ depth + 1 <;>
      simp [nestingReachesFrom, openingQuote, opens, full]
  rw [entered]
  by_cases full : limit ≤ depth + 1
  · have deeper : limit ≤ depth + (deep + 1) := by omega
    simp [full, deeper]
  · rw [scanned (Nat.lt_of_not_le full)]
    have left : nestingReachesFrom limit .outside (depth + 1) (closing :: rest) =
        nestingReachesFrom limit .outside depth rest := by
      simp [nestingReachesFrom, closingQuote, closingOnly, closes]
    have same : depth + 1 + deep = depth + (deep + 1) := by omega
    simp [full, left, same]

-- Two parts with a comma between them reach the limit when one of them does.
theorem scan_joined (first second rest : List Char) (depth deep deeper : Nat)
    (head : nestingReachesFrom limit .outside depth (first ++ ',' :: (second ++ rest)) =
      (decide (limit ≤ depth + deep) ||
        nestingReachesFrom limit .outside depth (',' :: (second ++ rest))))
    (tail : nestingReachesFrom limit .outside depth (second ++ rest) =
      (decide (limit ≤ depth + deeper) || nestingReachesFrom limit .outside depth rest)) :
    nestingReachesFrom limit .outside depth (first ++ ',' :: (second ++ rest)) =
      (decide (limit ≤ depth + max deep deeper) ||
        nestingReachesFrom limit .outside depth rest) := by
  have comma := passes_plain ',' (second ++ rest) (by simp [Plain, isOpening, isClosing])
    limit depth
  have either : limit ≤ depth + max deep deeper ↔
      limit ≤ depth + deep ∨ limit ≤ depth + deeper := by omega
  rw [head, comma, tail, ← Bool.or_assoc]
  simp [either]

theorem scan_named (depth : Nat) (name : String) (rest : List Char) :
    nestingReachesFrom limit .outside depth (quoted name ++ ':' :: rest) =
      nestingReachesFrom limit .outside depth rest := by
  rw [scan_quoted]
  exact passes_plain ':' rest (by simp [Plain, isOpening, isClosing]) limit depth

mutual
theorem scan_text : (value : Json) → (depth : Nat) → (rest : List Char) → depth < limit →
    nestingReachesFrom limit .outside depth (value.text ++ rest) =
      (decide (limit ≤ depth + value.nesting) ||
        nestingReachesFrom limit .outside depth rest)
  | .null, depth, rest, below =>
      scan_flat limit _ rest depth below
        (by simp [Json.text, Plain, isOpening, isClosing])
  | .bool true, depth, rest, below =>
      scan_flat limit _ rest depth below
        (by simp [Json.text, Plain, isOpening, isClosing])
  | .bool false, depth, rest, below =>
      scan_flat limit _ rest depth below
        (by simp [Json.text, Plain, isOpening, isClosing])
  | .num number, depth, rest, below =>
      scan_flat limit _ rest depth below (plain_number number)
  | .str text, depth, rest, below => by
      rw [Json.text, scan_quoted]
      simp [nesting, Nat.not_le.mpr below]
  | .arr items, depth, rest, below => by
      have scanned := fun room => scan_items items (depth + 1) (']' :: rest) room
      rw [Json.text, nesting, List.cons_append, List.append_assoc]
      exact scan_bracketed limit '[' ']' (itemsText items) rest depth (nestingItems items) rfl rfl
        scanned
  | .obj members, depth, rest, below => by
      have scanned := fun room => scan_members members (depth + 1) ('\x7d' :: rest) room
      rw [Json.text, nesting, List.cons_append, List.append_assoc]
      exact scan_bracketed limit '\x7b' '\x7d' (membersText members) rest depth
        (nestingMembers members) rfl rfl scanned

theorem scan_items : (items : List Json) → (depth : Nat) → (rest : List Char) → depth < limit →
    nestingReachesFrom limit .outside depth (itemsText items ++ rest) =
      (decide (limit ≤ depth + nestingItems items) ||
        nestingReachesFrom limit .outside depth rest)
  | [], depth, rest, below => by
      simp [itemsText, nestingItems, Nat.not_le.mpr below]
  | [item], depth, rest, below => by
      simpa [itemsText, nestingItems] using scan_text item depth rest below
  | item :: next :: others, depth, rest, below => by
      rw [itemsText, nestingItems, List.append_assoc, List.cons_append]
      exact scan_joined limit _ _ rest depth item.nesting _ (scan_text item depth _ below)
        (scan_items (next :: others) depth rest below)

theorem scan_members : (members : List (String × Json)) → (depth : Nat) → (rest : List Char) →
    depth < limit →
    nestingReachesFrom limit .outside depth (membersText members ++ rest) =
      (decide (limit ≤ depth + nestingMembers members) ||
        nestingReachesFrom limit .outside depth rest)
  | [], depth, rest, below => by
      simp [membersText, nestingMembers, Nat.not_le.mpr below]
  | [(name, value)], depth, rest, below => by
      rw [membersText, List.append_assoc, List.cons_append, scan_named]
      simpa [nestingMembers] using scan_text value depth rest below
  | (name, value) :: next :: others, depth, rest, below => by
      rw [membersText, nestingMembers, List.append_assoc, List.cons_append, scan_named,
        List.append_assoc, List.cons_append]
      exact scan_joined limit _ _ rest depth value.nesting _ (scan_text value depth _ below)
        (scan_members (next :: others) depth rest below)
end

/-- A scan of the compact text reaches a limit just where the nesting of the value does. -/
theorem nesting_reaches_compact (value : Json) (positive : 0 < limit) :
    nestingReaches limit value.compact = decide (limit ≤ value.nesting) := by
  have scanned := scan_text limit value 0 [] positive
  simpa [nestingReaches, compact, nestingReachesFrom] using scanned

end Values

end FormEngine.Json
