import FormEngine.Proofs.Json.RoundTrip

/-!
The size of compact text. No text of a value is shorter than its compact one: blanks go, an escape is
never shorter than what is printed for its character, and of members under one name only the last
is printed. Floating numbers are left out of account, for `1e9` is shorter than what is printed for
it.
-/

namespace FormEngine.Json

section Bytes

@[simp]
theorem byte_count_nil : byteCount [] = 0 := rfl

@[simp]
theorem byte_count_cons (char : Char) (rest : List Char) :
    byteCount (char :: rest) = char.utf8Size + byteCount rest := rfl

theorem utf8_byte_size (text : List Char) : (String.ofList text).utf8ByteSize = byteCount text := by
  induction text with
  | nil => rfl
  | cons char rest ih =>
      rw [String.ofList_cons, String.utf8ByteSize_append, String.utf8ByteSize_singleton, ih,
        byte_count_cons]

theorem byte_count_append (left right : List Char) :
    byteCount (left ++ right) = byteCount left + byteCount right := by
  induction left with
  | nil => simp
  | cons char rest ih => simp only [List.cons_append, byte_count_cons, ih, Nat.add_assoc]

theorem length_le_bytes (text : List Char) : text.length ≤ byteCount text := by
  induction text with
  | nil => exact Nat.le_refl 0
  | cons char rest ih =>
      have positive := char.utf8Size_pos
      simp only [List.length_cons, byte_count_cons]
      omega

theorem leaves_bytes (count : Nat) (input rest : List Char) (leaves : Leaves count input rest) :
    byteCount rest + count ≤ byteCount input := by
  obtain ⟨taken, rfl, enough⟩ := leaves
  have bytes := length_le_bytes taken
  rw [byte_count_append]
  omega

theorem ascii_bytes (text : List Char) (ascii : ∀ char ∈ text, char.isDigit = true) :
    byteCount text = text.length := by
  induction text with
  | nil => rfl
  | cons char rest ih =>
      obtain ⟨head, tail⟩ := List.forall_mem_cons.mp ascii
      have small : char.utf8Size = 1 := by
        have bounds : char.val ≤ 0x39 := by
          simp only [Char.isDigit, ge_iff_le, Bool.and_eq_true, decide_eq_true_eq] at head
          exact head.2
        have below : char.val ≤ 0x7F := Nat.le_trans bounds (by decide)
        simp [Char.utf8Size, below]
      rw [byte_count_cons, small, ih tail, List.length_cons, Nat.add_comm]

theorem blanks_bytes (input : List Char) : byteCount (skipBlanks input) ≤ byteCount input := by
  obtain ⟨taken, same, _⟩ := takes_blanks input
  have split := congrArg byteCount same
  rw [byte_count_append] at split
  omega

end Bytes

section Bulk

/-- The length of the compact text in bytes, in which a floating number counts nothing. -/
def Number.bulk : Json.Number → Nat
  | .integer value => byteCount (Number.integer value).text
  | .floating _ _ => 0

def nameBulk (name : String) : Nat := byteCount (quoted name)

-- An item counts with the comma or the closing bracket after it.
mutual
def bulk : Json → Nat
  | .null => 4
  | .bool true => 4
  | .bool false => 5
  | .num number => number.bulk
  | .str text => nameBulk text
  | .arr items => max 1 (bulkItems items) + 1
  | .obj members => max 1 (bulkMembers members) + 1

def bulkItems : List Json → Nat
  | [] => 0
  | item :: rest => bulk item + 1 + bulkItems rest

def bulkMembers : List (String × Json) → Nat
  | [] => 0
  | (name, value) :: rest => nameBulk name + 1 + bulk value + 1 + bulkMembers rest
end

theorem mark_bytes (mark : Char) (rest : List Char)
    (marks : mark ∈ ['[', ']', '\x7b', '\x7d', ',', ':', '"', '-', '\\']) :
    byteCount (mark :: rest) = byteCount rest + 1 := by
  have one : mark.utf8Size = 1 := by
    simp only [List.mem_cons, List.not_mem_nil, or_false] at marks
    rcases marks with rfl | rfl | rfl | rfl | rfl | rfl | rfl | rfl | rfl <;> rfl
  rw [byte_count_cons, one, Nat.add_comm]

mutual
theorem text_bulk : (value : Json) → value.Exact → byteCount value.text = value.bulk
  | .null, _ => rfl
  | .bool true, _ => rfl
  | .bool false, _ => rfl
  | .num (.integer _), _ => rfl
  | .num (.floating _ _), exact => exact.elim
  | .str _, _ => rfl
  | .arr [], _ => rfl
  | .arr (item :: others), exact => by
      have inside := items_bulk (item :: others) exact (by simp)
      rw [Json.text, bulk, mark_bytes '[' _ (by simp), byte_count_append, mark_bytes ']' _ (by simp),
        ← inside, byte_count_nil]
      omega
  | .obj [], _ => rfl
  | .obj (member :: others), exact => by
      have inside := members_bulk (member :: others) exact (by simp)
      rw [Json.text, bulk, mark_bytes '\x7b' _ (by simp), byte_count_append,
        mark_bytes '\x7d' _ (by simp), ← inside, byte_count_nil]
      omega

theorem items_bulk : (items : List Json) → ExactItems items → items ≠ [] →
    byteCount (itemsText items) + 1 = bulkItems items
  | [], _, filled => absurd rfl filled
  | [item], exact, _ => by
      rw [itemsText, text_bulk item exact.1, bulkItems, bulkItems]
  | item :: next :: others, exact, _ => by
      have later := items_bulk (next :: others) exact.2 (by simp)
      rw [itemsText, byte_count_append, mark_bytes ',' _ (by simp), text_bulk item exact.1,
        bulkItems]
      omega

theorem members_bulk : (members : List (String × Json)) → ExactMembers members → members ≠ [] →
    byteCount (membersText members) + 1 = bulkMembers members
  | [], _, filled => absurd rfl filled
  | [(name, value)], exact, _ => by
      rw [membersText, byte_count_append, mark_bytes ':' _ (by simp), text_bulk value exact.1,
        bulkMembers, bulkMembers, nameBulk]
      omega
  | (name, value) :: next :: others, exact, _ => by
      have later := members_bulk (next :: others) exact.2 (by simp)
      rw [membersText, byte_count_append, mark_bytes ':' _ (by simp), byte_count_append,
        mark_bytes ',' _ (by simp), text_bulk value exact.1, bulkMembers, nameBulk]
      omega
end

theorem exact_byte_size (value : Json) (exact : value.Exact) : value.byteSize = value.bulk := by
  rw [byteSize, compact, utf8_byte_size, text_bulk value exact]

theorem insert_bulk (name : String) (value : Json) (members : List (String × Json)) :
    bulkMembers (Keyed.insert name value members) ≤
      nameBulk name + 1 + value.bulk + 1 + bulkMembers members := by
  induction members with
  | nil => exact Nat.le_refl _
  | cons member rest ih =>
      obtain ⟨label, held⟩ := member
      simp only [Keyed.insert]
      split
      · simp only [bulkMembers]
        omega
      · split
        · simp only [bulkMembers]
          omega
        · simp only [bulkMembers]
          omega

theorem merge_bulk (taken members : List (String × Json)) :
    bulkMembers (Keyed.merge taken members) ≤ bulkMembers taken + bulkMembers members := by
  induction members generalizing taken with
  | nil => exact Nat.le_refl _
  | cons member rest ih =>
      obtain ⟨name, value⟩ := member
      have merged := ih (Keyed.insert name value taken)
      have inserted := insert_bulk name value taken
      show bulkMembers (Keyed.merge (Keyed.insert name value taken) rest) ≤ _
      simp only [bulkMembers]
      omega

theorem sublist_bulk (kept members : List (String × Json)) (within : kept.Sublist members) :
    bulkMembers kept ≤ bulkMembers members := by
  induction within with
  | slnil => exact Nat.le_refl _
  | cons member _ ih =>
      simp only [bulkMembers]
      omega
  | cons_cons member _ ih =>
      simp only [bulkMembers]
      omega

-- A member that a later one replaces is not printed.
mutual
theorem settled_bulk : (tree : Json) → tree.settled.bulk ≤ tree.bulk
  | .null => Nat.le_refl _
  | .bool _ => Nat.le_refl _
  | .num _ => Nat.le_refl _
  | .str _ => Nat.le_refl _
  | .arr items => by
      have inside := settled_items_bulk items
      simp only [settled, bulk]
      omega
  | .obj members => by
      have inside := settled_members_bulk members
      have merged := merge_bulk [] (settledMembers members)
      have same : Keyed.ofList (settledMembers members) =
          Keyed.merge [] (settledMembers members) := rfl
      simp only [bulkMembers, Nat.zero_add] at merged
      simp only [settled, bulk, same]
      omega

theorem settled_items_bulk : (items : List Json) →
    bulkItems (settledItems items) ≤ bulkItems items
  | [] => Nat.le_refl _
  | item :: rest => by
      have head := settled_bulk item
      have tail := settled_items_bulk rest
      simp only [settledItems, bulkItems]
      omega

theorem settled_members_bulk : (members : List (String × Json)) →
    bulkMembers (settledMembers members) ≤ bulkMembers members
  | [] => Nat.le_refl _
  | (name, value) :: rest => by
      have head := settled_bulk value
      have tail := settled_members_bulk rest
      simp only [settledMembers, bulkMembers]
      omega
end

end Bulk

section Numbers

def Number.IsFloating : Json.Number → Prop
  | .integer _ => False
  | .floating _ _ => True

theorem floating_floats (negative : Bool) (significand : Nat) (exponent : Int)
    (number : Json.Number) (input rest : List Char)
    (read : floating negative significand exponent input = .ok (number, rest)) :
    number.IsFloating := by
  unfold floating at read
  split at read
  · cases read
    trivial
  · simp [stopBefore] at read

theorem exponent_floats (negative : Bool) (significand : Nat) (start : Int)
    (number : Json.Number) (input rest : List Char)
    (read : readExponent negative significand start input = .ok (number, rest)) :
    number.IsFloating := by
  unfold readExponent at read
  split at read
  split at read
  · simp [stopBefore] at read
  · split at read
    · simp [stopAt] at read
    · split at read
      · exact floating_floats _ _ _ number _ rest read
      · split at read
        · simp [stopBefore] at read
        · cases read
          trivial

theorem after_digits_floats (negative : Bool) (significand : Nat) (exponent : Int)
    (number : Json.Number) (input rest : List Char)
    (read : readAfterDigits negative significand exponent input = .ok (number, rest)) :
    number.IsFloating := by
  unfold readAfterDigits at read
  split at read
  · exact exponent_floats _ _ _ number _ rest read
  · exact exponent_floats _ _ _ number _ rest read
  · exact floating_floats _ _ _ number _ rest read

theorem fraction_floats (negative : Bool) (significand : Nat) (exponent : Int)
    (number : Json.Number) (input rest : List Char)
    (read : readFraction negative significand exponent input = .ok (number, rest)) :
    number.IsFloating := by
  unfold readFraction at read
  split at read
  split at read
  · split at read
    · simp [stopAt] at read
    · exact floating_floats _ _ _ number _ rest read
  · split at read
    · exact after_digits_floats _ _ _ number _ rest read
    · split at read
      · simp [stopAt] at read
      · exact after_digits_floats _ _ _ number _ rest read

theorem long_floats (negative : Bool) (significand : Nat) (number : Json.Number)
    (input rest : List Char)
    (read : readLong negative significand input = .ok (number, rest)) : number.IsFloating := by
  unfold readLong at read
  simp only at read
  split at read
  · exact fraction_floats _ _ _ number _ rest read
  · exact after_digits_floats _ _ _ number _ rest read

theorem floating_bulk (number : Json.Number) (floats : number.IsFloating) : number.bulk = 0 := by
  cases number with
  | integer value => exact floats.elim
  | floating negative magnitude => rfl

theorem takes_bytes (input rest : List Char) (takes : Takes input rest) :
    byteCount rest ≤ byteCount input := by
  obtain ⟨taken, rfl, _⟩ := takes
  rw [byte_count_append]
  exact Nat.le_add_left _ _

theorem digits_bytes (value : Nat) :
    byteCount (Nat.toDigits 10 value) = (Nat.toDigits 10 value).length :=
  ascii_bytes _ fun _ listed => Nat.isDigit_of_mem_toDigits (by decide) (by decide) listed

theorem natural_bulk (value : Nat) :
    (Number.integer value).bulk = (Nat.toDigits 10 value).length := digits_bytes value

theorem negative_bulk (value : Nat) (notZero : value ≠ 0) :
    (Number.integer (-(value : Int))).bulk = 1 + (Nat.toDigits 10 value).length := by
  obtain ⟨less, rfl⟩ := Nat.exists_eq_succ_of_ne_zero notZero
  show byteCount ('-' :: Nat.toDigits 10 (less + 1)) = _
  rw [mark_bytes '-' _ (by simp), digits_bytes, Nat.add_comm]

theorem digit_small (char : Char) (value : Nat) (digit : digit? char = some value) :
    value < 10 := by
  simp only [digit?, Option.ite_none_right_eq_some, Option.some.injEq] at digit
  obtain ⟨⟨_, upper⟩, rfl⟩ := digit
  have code : char.toNat ≤ 57 := upper
  omega

theorem digits_grow (significand value count : Nat) (digit : value < 10) (positive : 0 < count)
    (few : (Nat.toDigits 10 significand).length ≤ count) :
    (Nat.toDigits 10 (significand * 10 + value)).length ≤ count + 1 := by
  have small := (Nat.length_toDigits_le_iff (by decide) positive).mp few
  apply (Nat.length_toDigits_le_iff (by decide) (Nat.succ_pos count)).mpr
  rw [Nat.pow_succ]
  omega

-- Each digit that is taken makes the significand at most one digit longer.
theorem take_digits_size (significand count digits : Nat) (input : List Char)
    (positive : 0 < digits) (few : (Nat.toDigits 10 significand).length ≤ digits) :
    ∃ taken, (Nat.toDigits 10 (takeDigits significand count input).1).length ≤ digits + taken ∧
      taken + byteCount (takeDigits significand count input).2.2 ≤ byteCount input := by
  induction input generalizing significand count digits with
  | nil => exact ⟨0, few, Nat.le_refl _⟩
  | cons char rest ih =>
      simp only [takeDigits]
      cases digit : digit? char with
      | none => exact ⟨0, few, by simp⟩
      | some value =>
          have below := digit_small char value digit
          by_cases fits : significand * 10 + value < significandLimit
          · obtain ⟨taken, longer, size⟩ := ih (significand * 10 + value) (count + 1) (digits + 1)
              (Nat.succ_pos digits) (digits_grow significand value digits below positive few)
            refine ⟨taken + 1, ?_, ?_⟩
            · simp only [fits, ↓reduceIte]
              rwa [Nat.add_right_comm, Nat.add_assoc] at longer
            · have positive := char.utf8Size_pos
              simp only [fits, ↓reduceIte, byte_count_cons]
              omega
          · exact ⟨0, by simpa [fits] using few, by simp [fits]⟩

theorem whole_size (negative : Bool) (significand : Nat) (number : Json.Number)
    (input rest : List Char)
    (read : readWhole negative significand input = .ok (number, rest)) :
    number.bulk + byteCount rest ≤
      negative.toNat + (Nat.toDigits 10 significand).length + byteCount input := by
  have bytes := takes_bytes input rest (takes_whole negative significand number input rest read)
  have floats : number.IsFloating → number.bulk + byteCount rest ≤
      negative.toNat + (Nat.toDigits 10 significand).length + byteCount input := fun floats => by
    rw [floating_bulk number floats]
    omega
  unfold readWhole at read
  split at read
  · exact floats (fraction_floats _ _ _ number _ rest read)
  · exact floats (exponent_floats _ _ _ number _ rest read)
  · exact floats (exponent_floats _ _ _ number _ rest read)
  · unfold wholeNumber at read
    split at read
    · obtain ⟨rfl, rfl⟩ := Prod.mk.inj (Except.ok.inj read)
      rw [natural_bulk]
      omega
    · split at read
      · exact floats (floating_floats _ _ _ number _ rest read)
      · rename_i negated bounds
        obtain ⟨rfl, rfl⟩ := Prod.mk.inj (Except.ok.inj read)
        have sign : negative = true := by simpa using negated
        have bulk := negative_bulk significand fun zero => bounds (Or.inl zero)
        rw [sign, Bool.toNat_true]
        omega

theorem number_size (negative : Bool) (number : Json.Number) (input rest : List Char)
    (read : readNumber negative input = .ok (number, rest)) :
    number.bulk + byteCount rest ≤ negative.toNat + byteCount input := by
  unfold readNumber at read
  split at read
  · simp [stopBefore] at read
  · rename_i others
    have whole : readWhole negative 0 others = .ok (number, rest) := by
      split at read
      · split at read
        · simp [stopAt] at read
        · exact read
      · exact read
    have size := whole_size negative 0 number others rest whole
    have zero : (Nat.toDigits 10 0).length = 1 := rfl
    have one : ('0' : Char).utf8Size = 1 := rfl
    rw [byte_count_cons, one]
    omega
  · rename_i first others _
    cases digit : digit? first with
    | none => simp [digit, stopAt] at read
    | some value =>
        have below : value < 10 := digit_small first value digit
        have single : (Nat.toDigits 10 value).length ≤ 1 :=
          (Nat.length_toDigits_le_iff (by decide) Nat.one_pos).mpr below
        have positive := first.utf8Size_pos
        obtain ⟨taken, digits, size⟩ := take_digits_size value 0 1 others Nat.one_pos single
        simp only [digit] at read
        generalize takeDigits value 0 others = result at digits size read
        obtain ⟨significand, _, left⟩ := result
        rw [byte_count_cons]
        have whole : readWhole negative significand left = .ok (number, rest) →
            number.bulk + byteCount rest ≤
              negative.toNat + (first.utf8Size + byteCount others) := fun whole => by
          have last := whole_size negative significand number left rest whole
          simp only at size digits
          omega
        cases left with
        | nil => exact whole read
        | cons next more =>
            simp only at read
            split at read
            · have bytes := takes_bytes _ rest (takes_long _ _ number _ rest read)
              rw [floating_bulk number (long_floats _ _ number _ rest read)]
              simp only at size
              omega
            · exact whole read

end Numbers

section Literals

theorem escaped_bytes (char : Char) : byteCount (escaped char) ≤ 6 := by
  have narrow := char.utf8Size_le_four
  have hex : ∀ value < 16, (hexDigit value).utf8Size = 1 := by decide
  unfold escaped
  split
  · decide
  split
  · decide
  split
  · simp only [byte_count_cons, byte_count_nil]
    omega
  rename_i control
  iterate 5
    split
    · decide
  have high := hex (char.toNat / 16) (by omega)
  have low := hex (char.toNat % 16) (Nat.mod_lt _ (by decide))
  have rest : byteCount ['\\', 'u', '0', '0', hexDigit (char.toNat / 16),
      hexDigit (char.toNat % 16)] = 1 + (1 + (1 + (1 +
        ((hexDigit (char.toNat / 16)).utf8Size + ((hexDigit (char.toNat % 16)).utf8Size + 0))))) :=
    rfl
  omega

theorem short_escape_size (char head : Char) (rest : List Char)
    (short : byteCount (escaped char) ≤ 2) :
    byteCount (escaped char) + byteCount rest ≤ byteCount (head :: rest) + 1 := by
  have positive := head.utf8Size_pos
  rw [byte_count_cons]
  omega

/-- An escape takes no less than what is printed for its character. -/
theorem escape_size (char : Char) (input rest : List Char)
    (read : readEscape input = .ok (char, rest)) :
    byteCount (escaped char) + byteCount rest ≤ byteCount input + 1 := by
  unfold readEscape at read
  split at read
  case h_10 =>
    rename_i others
    have leaves := leaves_bytes 4 others rest (unicode_leaves char others rest read)
    have printed := escaped_bytes char
    have one : ('u' : Char).utf8Size = 1 := rfl
    rw [byte_count_cons, one]
    omega
  case h_1 => simp [stopBefore] at read
  case h_11 => simp [stopAt] at read
  all_goals
    obtain ⟨rfl, rfl⟩ := Prod.mk.inj (Except.ok.inj read)
    exact short_escape_size _ _ _ (by decide)

theorem literal_size (chars input rest : List Char) (literal : Literal chars input rest) :
    byteCount (chars.flatMap escaped) + 1 + byteCount rest ≤ byteCount input := by
  induction literal with
  | close rest =>
      rw [mark_bytes '"' rest (by simp), List.flatMap_nil, byte_count_nil]
      omega
  | plain char chars input rest notQuote notBackslash visible _ ih =>
      have printed : byteCount (escaped char) = char.utf8Size := by
        simp [escaped, notQuote, notBackslash, visible]
      rw [List.flatMap_cons, byte_count_append, byte_count_cons, printed]
      omega
  | escape char chars input middle rest escaped _ ih =>
      have taken := escape_size char input middle escaped
      rw [List.flatMap_cons, byte_count_append, mark_bytes '\\' input (by simp)]
      omega

end Literals

section Parts

/-- What the text of a part takes at least. Behind an item stands a comma or the closing bracket. -/
def Part.bulk : Part → Nat
  | .value tree => tree.bulk
  | .items true trees => max 1 (bulkItems trees)
  | .items false trees => bulkItems trees + 1
  | .members true trees => max 1 (bulkMembers trees)
  | .members false trees => bulkMembers trees + 1

theorem start_bytes (input rest : List Char) (start : skipBlanks input = rest) :
    byteCount rest ≤ byteCount input := start ▸ blanks_bytes input

theorem marked_bytes (mark : Char) (input rest : List Char)
    (start : skipBlanks input = mark :: rest)
    (marks : mark ∈ ['[', ']', '\x7b', '\x7d', ',', ':', '"', '-', '\\']) :
    byteCount rest + 1 ≤ byteCount input := by
  have bytes := start_bytes input _ start
  rwa [mark_bytes mark rest marks] at bytes

-- What is not first has a comma before it.
theorem separated_bytes (first : Bool) (input rest : List Char)
    (apart : Separated first input rest) :
    byteCount rest + (!first).toNat ≤ byteCount input := by
  cases first with
  | true =>
      obtain rfl : rest = input := apart
      exact Nat.le_refl _
  | false => exact marked_bytes ',' input rest apart (by simp)

theorem name_bulk (chars : List Char) :
    nameBulk (String.ofList chars) = byteCount (chars.flatMap escaped) + 2 := by
  rw [nameBulk, quoted, String.toList_ofList, mark_bytes '"' _ (by simp), byte_count_append,
    mark_bytes '"' _ (by simp), byte_count_nil]

theorem spells_size (part : Part) (input rest : List Char) (spells : Spells part input rest) :
    part.bulk + byteCount rest ≤ byteCount input := by
  induction spells with
  | null input rest start =>
      have bytes := start_bytes input _ start
      have word : byteCount ('n' :: 'u' :: 'l' :: 'l' :: rest) =
          1 + (1 + (1 + (1 + byteCount rest))) := rfl
      simp only [Part.bulk, bulk]
      omega
  | yes input rest start =>
      have bytes := start_bytes input _ start
      have word : byteCount ('t' :: 'r' :: 'u' :: 'e' :: rest) =
          1 + (1 + (1 + (1 + byteCount rest))) := rfl
      simp only [Part.bulk, bulk]
      omega
  | no input rest start =>
      have bytes := start_bytes input _ start
      have word : byteCount ('f' :: 'a' :: 'l' :: 's' :: 'e' :: rest) =
          1 + (1 + (1 + (1 + (1 + byteCount rest)))) := rfl
      simp only [Part.bulk, bulk]
      omega
  | negative number input inner rest start read =>
      have bytes := marked_bytes '-' input inner start (by simp)
      have size := number_size true number inner rest read
      rw [Bool.toNat_true] at size
      simp only [Part.bulk, bulk]
      omega
  | number number char input inner rest start digit read =>
      have bytes := start_bytes input _ start
      have size := number_size false number _ rest read
      rw [Bool.toNat_false] at size
      simp only [Part.bulk, bulk]
      omega
  | str chars input inner rest start literal =>
      have bytes := marked_bytes '"' input inner start (by simp)
      have size := literal_size chars inner rest literal
      simp only [Part.bulk, bulk, name_bulk]
      omega
  | arr trees input inner rest start _ ih =>
      have bytes := marked_bytes '[' input inner start (by simp)
      simp only [Part.bulk, bulk] at ih ⊢
      omega
  | obj trees input inner rest start _ ih =>
      have bytes := marked_bytes '\x7b' input inner start (by simp)
      simp only [Part.bulk, bulk] at ih ⊢
      omega
  | noItem first input rest start =>
      have bytes := marked_bytes ']' input rest start (by simp)
      cases first <;> simp only [Part.bulk, bulkItems] <;> omega
  | item first tree trees input inner middle rest apart _ _ ihHead ihLater =>
      have comma := separated_bytes first input inner apart
      simp only [Part.bulk] at ihHead ihLater
      cases first <;>
        simp only [Part.bulk, bulkItems, Bool.not_true, Bool.not_false, Bool.toNat_true,
          Bool.toNat_false] at comma ⊢ <;>
        omega
  | noMember first input rest start =>
      have bytes := marked_bytes '\x7d' input rest start (by simp)
      cases first <;> simp only [Part.bulk, bulkMembers] <;> omega
  | member first chars tree trees input spaced inner named held middle rest apart start literal
      colon _ _ ihHead ihLater =>
      have comma := separated_bytes first input spaced apart
      have quote := marked_bytes '"' spaced inner start (by simp)
      have name := literal_size chars inner named literal
      have between := marked_bytes ':' named held colon (by simp)
      simp only [Part.bulk] at ihHead ihLater
      cases first <;>
        simp only [Part.bulk, bulkMembers, name_bulk, Bool.not_true, Bool.not_false,
          Bool.toNat_true, Bool.toNat_false] at comma ⊢ <;>
        omega

/-- The compact text of the value is no longer than the text that it was read from. -/
theorem spelled_size (tree : Json) (text : String) (spelled : Spelled tree text)
    (exact : tree.settled.Exact) : tree.settled.byteSize ≤ text.utf8ByteSize := by
  obtain ⟨rest, spells, _⟩ := spelled
  have size := spells_size _ text.toList rest spells
  have settled := settled_bulk tree
  have bytes := utf8_byte_size text.toList
  rw [String.ofList_toList] at bytes
  rw [exact_byte_size _ exact, bytes]
  simp only [Part.bulk] at size
  omega

end Parts

end FormEngine.Json
