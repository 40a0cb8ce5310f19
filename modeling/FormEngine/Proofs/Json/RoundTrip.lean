import FormEngine.Json.Printer
import FormEngine.Proofs.Json.Parsing

/-!
Reading back what is printed. The compact text of a value spells the value itself, so a reader gives
it back. Only integers are looked at: a floating number is printed with the fewest digits that
identify it and read in rounded steps.
-/

namespace FormEngine.Json

section Integers

mutual
/-- All numbers are integers. -/
def Exact : Json → Prop
  | .num (.floating _ _) => False
  | .arr items => ExactItems items
  | .obj members => ExactMembers members
  | _ => True

def ExactItems : List Json → Prop
  | [] => True
  | item :: rest => Exact item ∧ ExactItems rest

def ExactMembers : List (String × Json) → Prop
  | [] => True
  | (_, value) :: rest => Exact value ∧ ExactMembers rest
end

theorem exact_items_iff (items : List Json) : ExactItems items ↔ ∀ item ∈ items, item.Exact := by
  induction items with
  | nil => simp [ExactItems]
  | cons item rest ih => simp [ExactItems, ih]

theorem exact_members_iff (members : List (String × Json)) :
    ExactMembers members ↔ ∀ member ∈ members, member.2.Exact := by
  induction members with
  | nil => simp [ExactMembers]
  | cons member rest ih => simp [ExactMembers, ih]

end Integers

section Digits

/-- A number that ends before this text does not go on in it. -/
def Ends : List Char → Prop
  | [] => True
  | char :: _ => digit? char = none ∧ char ≠ '.' ∧ char ≠ 'e' ∧ char ≠ 'E'

theorem ascii_digit (char : Char) (ascii : char.isDigit = true) :
    digit? char = some (char.toNat - '0'.toNat) := by
  have bounds : '0' ≤ char ∧ char ≤ '9' := by
    simpa [Char.isDigit, Char.le_def] using ascii
  simp [digit?, bounds]

-- A longer row of digits is a larger number, so the first digits fit when all of them do.
theorem take_digits (digits rest : List Char) (significand count : Nat)
    (ascii : ∀ char ∈ digits, char.isDigit = true)
    (fits : Nat.ofDigitChars 10 digits significand < significandLimit) (ends : Ends rest) :
    takeDigits significand count (digits ++ rest) =
      (Nat.ofDigitChars 10 digits significand, count + digits.length, rest) := by
  induction digits generalizing significand count with
  | nil =>
      cases rest with
      | nil => rfl
      | cons char rest => simp [takeDigits, ends.1, Nat.ofDigitChars]
  | cons char others ih =>
      obtain ⟨first, later⟩ := List.forall_mem_cons.mp ascii
      rw [Nat.ofDigitChars_cons] at fits ⊢
      have same : significand * 10 + (char.toNat - '0'.toNat) =
          10 * significand + (char.toNat - '0'.toNat) := by rw [Nat.mul_comm]
      have grows : 10 * significand + (char.toNat - '0'.toNat) ≤
          Nat.ofDigitChars 10 others (10 * significand + (char.toNat - '0'.toNat)) := by
        rw [Nat.ofDigitChars_eq_ofDigitChars_zero]
        have scaled := Nat.le_mul_of_pos_left (10 * significand + (char.toNat - '0'.toNat))
          (Nat.pow_pos (n := others.length) (by decide : 0 < 10))
        omega
      have room := Nat.lt_of_le_of_lt grows fits
      rw [List.cons_append, takeDigits]
      simp only [ascii_digit char first, same, room, ↓reduceIte]
      rw [ih _ (count + 1) later fits, List.length_cons, Nat.add_right_comm, Nat.add_assoc]

/-- Only zero is written with a leading zero. -/
theorem digits_start (value : Nat) (positive : 0 < value) :
    ∃ first others, Nat.toDigits 10 value = first :: others ∧ first ≠ '0' := by
  induction value using Nat.strongRecOn with
  | ind value ih =>
      by_cases small : value < 10
      · have single : ∀ digit < 10, 0 < digit → Nat.digitChar digit ≠ '0' := by decide
        exact ⟨_, [], Nat.toDigits_of_lt_base small, single value small positive⟩
      · obtain ⟨first, others, same, notZero⟩ := ih (value / 10) (by omega) (by omega)
        rw [Nat.toDigits_of_base_le (by decide) (Nat.not_lt.mp small), same]
        exact ⟨first, _, rfl, notZero⟩

theorem read_whole_ends (negative : Bool) (significand : Nat) (rest : List Char)
    (ends : Ends rest) :
    readWhole negative significand rest = wholeNumber negative significand rest := by
  unfold readWhole
  split
  · exact absurd rfl ends.2.1
  · exact absurd rfl ends.2.2.1
  · exact absurd rfl ends.2.2.2
  · rfl

theorem read_digits (negative : Bool) (value : Nat) (rest : List Char)
    (fits : value < significandLimit) (ends : Ends rest) :
    readNumber negative (Nat.toDigits 10 value ++ rest) = wholeNumber negative value rest := by
  have whole := read_whole_ends negative value rest ends
  rcases Nat.eq_zero_or_pos value with rfl | positive
  · cases rest with
    | nil => simpa [readNumber] using whole
    | cons next others =>
        have notDigit : digit? next = none := ends.1
        simpa [readNumber, notDigit] using whole
  · obtain ⟨first, others, same, notZero⟩ := digits_start value positive
    have ascii : ∀ char ∈ first :: others, char.isDigit = true := fun char listed =>
      Nat.isDigit_of_mem_toDigits (by decide) (by decide) (same ▸ listed)
    obtain ⟨head, tail⟩ := List.forall_mem_cons.mp ascii
    have total : Nat.ofDigitChars 10 others (first.toNat - '0'.toNat) = value := by
      have read := Nat.ofDigitChars_ten_toDigits (n := value)
      rwa [same, Nat.ofDigitChars_cons, Nat.mul_zero, Nat.zero_add] at read
    have taken := take_digits others rest (first.toNat - '0'.toNat) 0 tail (total ▸ fits) ends
    rw [total] at taken
    rw [same, List.cons_append, readNumber]
    · simp only [ascii_digit first head, taken]
      cases rest with
      | nil => exact whole
      | cons next others =>
          have notDigit : digit? next = none := ends.1
          simpa [notDigit] using whole
    · rintro rfl
      exact absurd rfl notZero

end Digits

section Leaves

theorem digit_not_blank (char : Char) (digit : (digit? char).isSome = true) :
    isBlank char = false := by
  refine Bool.eq_false_iff.mpr fun blank => ?_
  have same : char = ' ' ∨ char = '\t' ∨ char = '\n' ∨ char = '\r' := by
    simpa [isBlank, or_assoc] using blank
  rcases same with rfl | rfl | rfl | rfl <;> simp [digit?] at digit

theorem integer_spelled (value : Int) (inRange : (Number.integer value).InRange)
    (rest : List Char) (ends : Ends rest) :
    Spells (.value (.num (.integer value))) ((Number.integer value).text ++ rest) rest := by
  obtain ⟨least, greatest⟩ := inRange
  cases value with
  | ofNat value =>
      have fits : value < significandLimit := Int.ofNat_lt.mp greatest
      have read := read_digits false value rest fits ends
      obtain ⟨first, others, same⟩ := List.exists_cons_of_ne_nil (@Nat.toDigits_ne_nil value 10)
      have ascii := ascii_digit first
        (Nat.isDigit_of_mem_toDigits (by decide) (by decide) (same ▸ List.mem_cons_self))
      have digit : (digit? first).isSome = true := by simp [ascii]
      have text : (Number.integer (.ofNat value)).text ++ rest = first :: (others ++ rest) := by
        simp [Number.text, same]
      rw [same, List.cons_append] at read
      rw [text]
      refine .number _ first _ (others ++ rest) rest ?_ digit ?_
      · simp [skipBlanks, digit_not_blank first digit]
      · simpa [wholeNumber] using read
  | negSucc value =>
      have below : value + 1 ≤ Nat.pow 2 63 := by omega
      have fits : value + 1 < significandLimit := by
        have more : Nat.pow 2 63 < significandLimit := by decide
        omega
      have read := read_digits true (value + 1) rest fits ends
      refine .negative _ _ (Nat.toDigits 10 (value + 1) ++ rest) rest rfl ?_
      rw [read, wholeNumber]
      simp [Nat.not_lt.mpr below, Int.negSucc_eq]

theorem escaped_literal (char : Char) (chars input rest : List Char)
    (later : Literal chars input rest) : Literal (char :: chars) (escaped char ++ input) rest := by
  have same : ∀ code, char.toNat = code → char = Char.ofNat code := by
    rintro code rfl
    exact (Char.ofNat_toNat char).symm
  unfold escaped
  split
  · rename_i quote
    subst quote
    exact .escape '"' chars _ input rest rfl later
  split
  · rename_i backslash
    subst backslash
    exact .escape '\\' chars _ input rest rfl later
  split
  · rename_i notQuote notBackslash visible
    exact .plain char chars input rest notQuote notBackslash visible later
  split
  · rename_i code
    exact same _ code ▸ .escape _ chars _ input rest rfl later
  split
  · rename_i code
    exact same _ code ▸ .escape _ chars _ input rest rfl later
  split
  · rename_i code
    exact same _ code ▸ .escape _ chars _ input rest rfl later
  split
  · rename_i code
    exact same _ code ▸ .escape _ chars _ input rest rfl later
  split
  · rename_i code
    exact same _ code ▸ .escape _ chars _ input rest rfl later
  · rename_i control _ _ _ _ _
    have hex : ∀ value < 16, Text.hexValue? (hexDigit value) = some value := by decide
    have high := hex (char.toNat / 16) (by omega)
    have low := hex (char.toNat % 16) (by omega)
    have code : char.toNat / 16 * 16 + char.toNat % 16 = char.toNat := by omega
    have zero : Text.hexValue? '0' = some 0 := rfl
    refine .escape char chars _ input rest ?_ later
    have unit : readHex ('0' :: '0' :: hexDigit (char.toNat / 16) ::
        hexDigit (char.toNat % 16) :: input) = .ok (char.toNat, input) := by
      simp [readHex, zero, high, low, code]
    have notTrailing : ¬ (0xDC00 ≤ char.toNat ∧ char.toNat ≤ 0xDFFF) := by omega
    have notLeading : char.toNat < 0xD800 ∨ 0xDBFF < char.toNat := by omega
    show readUnicode ('0' :: '0' :: hexDigit (char.toNat / 16) ::
      hexDigit (char.toNat % 16) :: input) = .ok (char, input)
    rw [readUnicode, unit]
    simp [notTrailing, notLeading]

theorem quoted_literal (chars rest : List Char) :
    Literal chars (chars.flatMap escaped ++ '"' :: rest) rest := by
  induction chars with
  | nil => exact .close rest
  | cons char others ih =>
      rw [List.flatMap_cons, List.append_assoc]
      exact escaped_literal char others _ rest ih

end Leaves

section Values

theorem named_spells (name : String) (tree : Json) (trees : List (String × Json)) (first : Bool)
    (input held middle rest : List Char)
    (apart : Separated first input (quoted name ++ ':' :: held))
    (head : Spells (.value tree) held middle) (later : Spells (.members false trees) middle rest) :
    Spells (.members first ((name, tree) :: trees)) input rest := by
  have literal := quoted_literal name.toList (':' :: held)
  have start : skipBlanks (quoted name ++ ':' :: held) =
      '"' :: (name.toList.flatMap escaped ++ '"' :: ':' :: held) := by
    simp [quoted, skipBlanks, isBlank]
  have spells := Spells.member first name.toList tree trees input _ _ _ held middle rest apart start
    literal rfl head later
  rwa [String.ofList_toList] at spells

-- A value is followed by nothing, by a comma or by a closing bracket.
mutual
theorem text_spells : (value : Json) → value.WellFormed → value.Exact → (rest : List Char) →
    Ends rest → Spells (.value value) (value.text ++ rest) rest
  | .null, _, _, rest, _ => .null _ rest rfl
  | .bool true, _, _, rest, _ => .yes _ rest rfl
  | .bool false, _, _, rest, _ => .no _ rest rfl
  | .num (.integer value), wellFormed, _, rest, ends => integer_spelled value wellFormed rest ends
  | .num (.floating _ _), _, exact, _, _ => exact.elim
  | .str text, _, _, rest, _ => by
      have literal := quoted_literal text.toList rest
      have spells := Spells.str text.toList (quoted text ++ rest) _ rest
        (by simp [quoted, skipBlanks, isBlank]) literal
      rwa [String.ofList_toList] at spells
  | .arr [], _, _, rest, _ => .arr [] _ (']' :: rest) rest rfl (.noItem true _ rest rfl)
  | .arr (item :: others), wellFormed, exact, rest, _ =>
      .arr _ _ (itemsText (item :: others) ++ ']' :: rest) rest
        (by simp [Json.text, skipBlanks, isBlank])
        (items_spell (item :: others) wellFormed exact (by simp) true _ rest rfl)
  | .obj [], _, _, rest, _ => .obj [] _ ('\x7d' :: rest) rest rfl (.noMember true _ rest rfl)
  | .obj (member :: others), wellFormed, exact, rest, _ =>
      .obj _ _ (membersText (member :: others) ++ '\x7d' :: rest) rest
        (by simp [Json.text, skipBlanks, isBlank])
        (members_spell (member :: others) wellFormed.2 exact (by simp) true _ rest rfl)

theorem items_spell : (items : List Json) → WellFormedItems items → ExactItems items →
    items ≠ [] → (first : Bool) → (input rest : List Char) →
    Separated first input (itemsText items ++ ']' :: rest) →
    Spells (.items first items) input rest
  | [], _, _, filled, _, _, _, _ => absurd rfl filled
  | [item], wellFormed, exact, _, first, input, rest, apart =>
      .item first item [] input _ (']' :: rest) rest apart
        (text_spells item wellFormed.1 exact.1 _ ⟨rfl, by decide⟩) (.noItem false _ rest rfl)
  | item :: next :: others, wellFormed, exact, _, first, input, rest, apart => by
      rw [itemsText, List.append_assoc, List.cons_append] at apart
      exact .item first item (next :: others) input _
        (',' :: (itemsText (next :: others) ++ ']' :: rest)) rest apart
        (text_spells item wellFormed.1 exact.1 _ ⟨rfl, by decide⟩)
        (items_spell (next :: others) wellFormed.2 exact.2 (by simp) false _ rest rfl)

theorem members_spell : (members : List (String × Json)) → WellFormedMembers members →
    ExactMembers members → members ≠ [] → (first : Bool) → (input rest : List Char) →
    Separated first input (membersText members ++ '\x7d' :: rest) →
    Spells (.members first members) input rest
  | [], _, _, filled, _, _, _, _ => absurd rfl filled
  | [(name, value)], wellFormed, exact, _, first, input, rest, apart => by
      rw [membersText, List.append_assoc, List.cons_append] at apart
      exact named_spells name value [] first input _ ('\x7d' :: rest) rest apart
        (text_spells value wellFormed.1 exact.1 _ ⟨rfl, by decide⟩) (.noMember false _ rest rfl)
  | (name, value) :: next :: others, wellFormed, exact, _, first, input, rest, apart => by
      rw [membersText, List.append_assoc, List.cons_append, List.append_assoc,
        List.cons_append] at apart
      exact named_spells name value (next :: others) first input _
        (',' :: (membersText (next :: others) ++ '\x7d' :: rest)) rest apart
        (text_spells value wellFormed.1 exact.1 _ ⟨rfl, by decide⟩)
        (members_spell (next :: others) wellFormed.2 exact.2 (by simp) false _ rest rfl)
end

-- Nothing is written twice and members stand in key order, so settling leaves a value as it is.
mutual
theorem settled_well_formed : (value : Json) → value.WellFormed → value.settled = value
  | .null, _ => rfl
  | .bool _, _ => rfl
  | .num _, _ => rfl
  | .str _, _ => rfl
  | .arr items, wellFormed => by rw [settled, settled_items items wellFormed]
  | .obj members, wellFormed => by
      rw [settled, settled_members members wellFormed.2,
        Keyed.of_list_of_sorted members wellFormed.1]

theorem settled_items : (items : List Json) → WellFormedItems items → settledItems items = items
  | [], _ => rfl
  | item :: rest, wellFormed => by
      rw [settledItems, settled_well_formed item wellFormed.1, settled_items rest wellFormed.2]

theorem settled_members : (members : List (String × Json)) → WellFormedMembers members →
    settledMembers members = members
  | [], _ => rfl
  | (name, value) :: rest, wellFormed => by
      rw [settledMembers, settled_well_formed value wellFormed.1,
        settled_members rest wellFormed.2]
end

variable (value : Json) (wellFormed : value.WellFormed) (exact : value.Exact)

include wellFormed exact

theorem compact_spelled : Spelled value value.compact := by
  have spells := text_spells value wellFormed exact [] trivial
  refine ⟨[], ?_, rfl⟩
  simpa [compact] using spells

theorem compact_read : read? value.compact = some value := by
  have read := spelled_read value.compact value (compact_spelled value wellFormed exact)
  rwa [settled_well_formed value wellFormed] at read

end Values

end FormEngine.Json
