import FormEngine.Proofs.Json.Grammar
import FormEngine.Proofs.Json.Within

/-!
Reading follows the grammar. Whatever room a reader has for brackets, what it takes spells a tree
and the value it gives is that tree settled. With no limit on brackets it takes every text that
spells a tree; so the readable texts are those that the grammar admits.
-/

namespace FormEngine.Json

section Lengths

/-- At least so many characters stand before the rest. -/
def Leaves (count : Nat) (input rest : List Char) : Prop :=
  ∃ taken, input = taken ++ rest ∧ count ≤ taken.length

theorem leaves_length (count : Nat) (input rest : List Char) (leaves : Leaves count input rest) :
    rest.length + count ≤ input.length := by
  obtain ⟨taken, rfl, enough⟩ := leaves
  rw [List.length_append]
  omega

theorem leaves_more (count more : Nat) (taken input middle rest : List Char)
    (leaves : Leaves count middle rest) (same : input = taken ++ middle)
    (enough : more ≤ taken.length + count) : Leaves more input rest := by
  obtain ⟨others, rfl, length⟩ := leaves
  refine ⟨taken ++ others, by rw [same, List.append_assoc], ?_⟩
  rw [List.length_append]
  omega

theorem hex_leaves (value : Nat) (input rest : List Char)
    (read : readHex input = .ok (value, rest)) : Leaves 4 input rest := by
  unfold readHex at read
  split at read
  · rename_i first second third fourth others
    split at read
    · cases read
      exact ⟨[first, second, third, fourth], rfl, Nat.le_refl 4⟩
    · simp at read
  · split at read <;> simp [stopBefore] at read

theorem trailing_leaves (leading : Nat) (char : Char) (input rest : List Char)
    (read : readTrailing leading input = .ok (char, rest)) : Leaves 0 input rest := by
  unfold readTrailing at read
  split at read
  · simp [stopBefore] at read
  · simp [stopBefore] at read
  · split at read
    · simp at read
    · rename_i others _ _ left hex
      split at read
      · simp [stopBefore] at read
      · obtain ⟨_, rfl⟩ := Prod.mk.inj (Except.ok.inj read)
        exact leaves_more 4 0 ['\\', 'u'] _ others left (hex_leaves _ others left hex) rfl
          (Nat.zero_le _)
  · simp [stopAt] at read
  · simp [stopAt] at read

theorem unicode_leaves (char : Char) (input rest : List Char)
    (read : readUnicode input = .ok (char, rest)) : Leaves 4 input rest := by
  unfold readUnicode at read
  split at read
  · simp at read
  · rename_i unit left hex
    have four := hex_leaves unit input left hex
    split at read
    · simp [stopBefore] at read
    · split at read
      · cases read
        exact four
      · obtain ⟨digits, rfl, length⟩ := four
        exact leaves_more 0 4 digits _ left rest (trailing_leaves unit char left rest read) rfl
          length

theorem escape_shorter (char : Char) (input rest : List Char)
    (read : readEscape input = .ok (char, rest)) : rest.length < input.length := by
  unfold readEscape at read
  split at read
  case h_10 =>
    rename_i others
    have shorter := leaves_length 4 others rest (unicode_leaves char others rest read)
    simp only [List.length_cons]
    omega
  all_goals simp [stopAt, stopBefore] at read
  all_goals simp [read]

theorem literal_shorter (chars input rest : List Char) (literal : Literal chars input rest) :
    chars.length + rest.length < input.length := by
  induction literal with
  | close rest => simp
  | plain char chars input rest _ _ _ _ ih =>
      simp only [List.length_cons]
      omega
  | escape char chars input middle rest escaped _ ih =>
      have shorter := escape_shorter char input middle escaped
      simp only [List.length_cons]
      omega

theorem blanks_length (input : List Char) : (skipBlanks input).length ≤ input.length :=
  takes_length input _ (takes_blanks input)

/-- Blanks and one more character were taken. -/
theorem start_shorter (char : Char) (input rest : List Char)
    (start : skipBlanks input = char :: rest) : rest.length < input.length := by
  have blanks := blanks_length input
  rw [start] at blanks
  exact blanks

theorem separated_length (first : Bool) (input rest : List Char)
    (apart : Separated first input rest) : rest.length ≤ input.length := by
  cases first with
  | true => exact Nat.le_of_eq (congrArg List.length apart)
  | false => exact Nat.le_of_lt (start_shorter ',' input rest apart)

theorem spells_shorter (part : Part) (input rest : List Char) (spells : Spells part input rest) :
    rest.length < input.length := by
  induction spells with
  | null input rest start =>
      have shorter := start_shorter _ input _ start
      simp only [List.length_cons] at shorter
      omega
  | yes input rest start =>
      have shorter := start_shorter _ input _ start
      simp only [List.length_cons] at shorter
      omega
  | no input rest start =>
      have shorter := start_shorter _ input _ start
      simp only [List.length_cons] at shorter
      omega
  | negative number input inner rest start read =>
      exact Nat.lt_trans (number_shorter true number inner rest read)
        (start_shorter _ input inner start)
  | number number char input inner rest start digit read =>
      exact Nat.lt_of_lt_of_le (number_shorter false number _ rest read)
        (start_shorter _ input inner start)
  | str chars input inner rest start literal =>
      have shorter := literal_shorter chars inner rest literal
      have before := start_shorter _ input inner start
      omega
  | arr trees input inner rest start _ ih => exact Nat.lt_trans ih (start_shorter _ input _ start)
  | obj trees input inner rest start _ ih => exact Nat.lt_trans ih (start_shorter _ input _ start)
  | noItem first input rest start => exact start_shorter _ input rest start
  | item first tree trees input inner middle rest apart _ _ ihHead ihLater =>
      have before := separated_length first input inner apart
      omega
  | noMember first input rest start => exact start_shorter _ input rest start
  | member first chars tree trees input spaced inner named held middle rest apart start literal
      colon _ _ ihHead ihLater =>
      have before := separated_length first input spaced apart
      have quoted := start_shorter _ spaced inner start
      have key := literal_shorter chars inner named literal
      have valued := start_shorter _ named held colon
      omega

end Lengths

section Blanks

theorem skip_blanks_again (input : List Char) :
    skipBlanks (skipBlanks input) = skipBlanks input := by
  induction input with
  | nil => rfl
  | cons char rest ih =>
      by_cases blank : isBlank char = true
      · simpa [skipBlanks, blank] using ih
      · simp [skipBlanks, blank]

theorem read_value_blanks (fuel : Nat) (room : Option Nat) (input : List Char) :
    readValue fuel room (skipBlanks input) = readValue fuel room input := by
  cases fuel with
  | zero => rfl
  | succ fuel => simp only [readValue, skip_blanks_again]

end Blanks

/-! What is taken is spelled. -/

section Sound

theorem word_taken (word : List Char) (value result : Json) (input rest : List Char)
    (read : readWord word value input = .ok (result, rest)) :
    result = value ∧ input = word ++ rest := by
  induction word generalizing input with
  | nil =>
      cases read
      exact ⟨rfl, rfl⟩
  | cons expected word ih =>
      cases input with
      | nil => simp [readWord, stopBefore] at read
      | cons char others =>
          by_cases same : char = expected
          · obtain ⟨equal, taken⟩ := ih others (by simpa [readWord, same] using read)
            exact ⟨equal, by rw [same, taken, List.cons_append]⟩
          · simp [readWord, same, stopAt] at read

theorem string_taken (fuel : Nat) (taken : List Char) (text : String) (input rest : List Char)
    (read : readString fuel taken input = .ok (text, rest)) :
    ∃ chars, Literal chars input rest ∧ text = String.ofList (taken.reverse ++ chars) := by
  induction fuel generalizing taken input with
  | zero => simp [readString, stopBefore] at read
  | succ fuel ih =>
      cases input with
      | nil => simp [readString, stopBefore] at read
      | cons char others =>
          simp only [readString] at read
          split at read
          · rename_i quote
            cases read
            exact ⟨[], quote ▸ .close rest, by simp⟩
          · rename_i notQuote
            split at read
            · rename_i backslash
              split at read
              · rename_i next left escaped
                obtain ⟨chars, literal, same⟩ := ih _ _ read
                exact ⟨next :: chars, backslash ▸ .escape next chars others left rest escaped literal,
                  by simpa using same⟩
              · simp at read
            · rename_i notBackslash
              split at read
              · simp [stopAt] at read
              · rename_i visible
                obtain ⟨chars, literal, same⟩ := ih _ _ read
                exact ⟨char :: chars, .plain char chars others rest notQuote notBackslash
                  (Nat.le_of_not_lt visible) literal, by simpa using same⟩

/-- What the readers of one fuel take is spelled. -/
structure Sound (fuel : Nat) : Prop where
  value : ∀ room input value rest, readValue fuel room input = .ok (value, rest) →
    ∃ tree, Spells (.value tree) input rest ∧ tree.settled = value
  items : ∀ room first taken input items rest,
    readItems fuel room first taken input = .ok (items, rest) →
    ∃ trees, Spells (.items first trees) input rest ∧
      items = taken.reverse ++ settledItems trees
  members : ∀ room first taken input members rest,
    readMembers fuel room first taken input = .ok (members, rest) →
    ∃ trees, Spells (.members first trees) input rest ∧
      members = Keyed.merge taken (settledMembers trees)
  member : ∀ room input name value rest,
    readMember fuel room input = .ok ((name, value), rest) →
    ∃ chars named held tree, Literal chars input named ∧ skipBlanks named = ':' :: held ∧
      Spells (.value tree) held rest ∧ name = String.ofList chars ∧ tree.settled = value

variable (fuel : Nat) (ih : Sound fuel) (room : Option Nat) (input : List Char)

include ih

theorem value_taken (value : Json) (rest : List Char)
    (read : readValue (fuel + 1) room input = .ok (value, rest)) :
    ∃ tree, Spells (.value tree) input rest ∧ tree.settled = value := by
  unfold readValue at read
  split at read
  · simp [stopAt] at read
  · rename_i inner start
    obtain ⟨text, readText, rfl⟩ := map_value_ok rest _ _ value read
    obtain ⟨chars, literal, rfl⟩ := string_taken fuel [] text inner rest readText
    exact ⟨.str (String.ofList chars), .str chars input inner rest start literal, rfl⟩
  · rename_i inner start
    split at read
    · simp [stopAt] at read
    · obtain ⟨items, readItems, rfl⟩ := map_value_ok rest _ _ value read
      obtain ⟨trees, inside, rfl⟩ := ih.items _ true [] inner items rest readItems
      exact ⟨.arr trees, .arr trees input inner rest start inside, rfl⟩
  · rename_i inner start
    split at read
    · simp [stopAt] at read
    · obtain ⟨members, readMembers, rfl⟩ := map_value_ok rest _ _ value read
      obtain ⟨trees, inside, rfl⟩ := ih.members _ true [] inner members rest readMembers
      exact ⟨.obj trees, .obj trees input inner rest start inside, rfl⟩
  · rename_i inner start
    obtain ⟨rfl, rfl⟩ := word_taken _ _ value inner rest read
    exact ⟨.null, .null input rest start, rfl⟩
  · rename_i inner start
    obtain ⟨rfl, rfl⟩ := word_taken _ _ value inner rest read
    exact ⟨.bool true, .yes input rest start, rfl⟩
  · rename_i inner start
    obtain ⟨rfl, rfl⟩ := word_taken _ _ value inner rest read
    exact ⟨.bool false, .no input rest start, rfl⟩
  · rename_i inner start
    obtain ⟨number, readNumber, rfl⟩ := map_value_ok rest _ _ value read
    exact ⟨.num number, .negative number input inner rest start readNumber, rfl⟩
  · rename_i char inner _ _ _ _ _ _ _ start
    split at read
    · rename_i digit
      obtain ⟨number, readNumber, rfl⟩ := map_value_ok rest _ _ value read
      exact ⟨.num number, .number number char input inner rest start digit readNumber, rfl⟩
    · simp [stopAt] at read

/-- An item and what follows it, once the comma before it is taken. -/
theorem item_taken (first : Bool) (taken items : List Json) (inner rest : List Char)
    (apart : Separated first input inner)
    (read : (match readValue fuel room inner with
      | .ok (item, others) => readItems fuel room false (item :: taken) others
      | .error fault => .error fault) = .ok (items, rest)) :
    ∃ trees, Spells (.items first trees) input rest ∧
      items = taken.reverse ++ settledItems trees := by
  split at read
  · rename_i item middle readItem
    obtain ⟨tree, head, rfl⟩ := ih.value room inner item middle readItem
    obtain ⟨trees, later, rfl⟩ := ih.items room false _ middle items rest read
    exact ⟨tree :: trees, .item first tree trees input inner middle rest apart head later,
      by simp [settledItems]⟩
  · simp at read

theorem items_taken (first : Bool) (taken items : List Json) (rest : List Char)
    (read : readItems (fuel + 1) room first taken input = .ok (items, rest)) :
    ∃ trees, Spells (.items first trees) input rest ∧
      items = taken.reverse ++ settledItems trees := by
  unfold readItems at read
  split at read
  · simp [stopAt] at read
  · rename_i start
    cases read
    exact ⟨[], .noItem first input rest start, by simp [settledItems]⟩
  · rename_i next others _ start
    rw [← start, read_value_blanks] at read
    cases first with
    | true => exact item_taken fuel ih room input true taken items input rest rfl read
    | false =>
        simp only [Bool.false_eq_true, ↓reduceIte] at read
        split at read
        · rename_i comma
          have apart : Separated false input others := by
            simpa [Separated, comma] using start
          split at read
          · simp [stopAt] at read
          · simp [stopAt] at read
          · rw [read_value_blanks] at read
            exact item_taken fuel ih room input false taken items others rest apart read
        · simp [stopAt] at read

/-- A member and what follows it, once the quote before its name is taken. -/
theorem named_taken (first : Bool) (taken members : List (String × Json))
    (spaced inner rest : List Char) (apart : Separated first input spaced)
    (start : skipBlanks spaced = '"' :: inner)
    (read : (match readMember fuel room inner with
      | .ok ((name, value), others) =>
          readMembers fuel room false (Keyed.insert name value taken) others
      | .error fault => .error fault) = .ok (members, rest)) :
    ∃ trees, Spells (.members first trees) input rest ∧
      members = Keyed.merge taken (settledMembers trees) := by
  split at read
  · rename_i name value middle readNamed
    obtain ⟨chars, named, held, tree, literal, colon, head, rfl, rfl⟩ :=
      ih.member room inner name value middle readNamed
    obtain ⟨trees, later, rfl⟩ := ih.members room false _ middle members rest read
    exact ⟨(String.ofList chars, tree) :: trees,
      .member first chars tree trees input spaced inner named held middle rest apart start literal
        colon head later, rfl⟩
  · simp at read

theorem members_taken (first : Bool) (taken members : List (String × Json)) (rest : List Char)
    (read : readMembers (fuel + 1) room first taken input = .ok (members, rest)) :
    ∃ trees, Spells (.members first trees) input rest ∧
      members = Keyed.merge taken (settledMembers trees) := by
  unfold readMembers at read
  split at read
  · simp [stopAt] at read
  · rename_i start
    cases read
    exact ⟨[], .noMember first input rest start, rfl⟩
  · rename_i others start
    cases first with
    | true => exact named_taken fuel ih room input true taken members input others rest rfl start read
    | false => simp [stopAt] at read
  · rename_i others start
    cases first with
    | true => simp [stopAt] at read
    | false =>
        simp only [Bool.false_eq_true, ↓reduceIte] at read
        split at read
        · simp [stopAt] at read
        · rename_i inner quote
          exact named_taken fuel ih room input false taken members others inner rest start quote read
        · simp [stopAt] at read
        · simp [stopAt] at read
  · split at read <;> simp [stopAt] at read

theorem member_taken (name : String) (value : Json) (rest : List Char)
    (read : readMember (fuel + 1) room input = .ok ((name, value), rest)) :
    ∃ chars named held tree, Literal chars input named ∧ skipBlanks named = ':' :: held ∧
      Spells (.value tree) held rest ∧ name = String.ofList chars ∧ tree.settled = value := by
  unfold readMember at read
  split at read
  · simp at read
  · rename_i text named readName
    obtain ⟨chars, literal, rfl⟩ := string_taken fuel [] text input named readName
    split at read
    · simp [stopAt] at read
    · rename_i held colon
      split at read
      · rename_i readHeld
        cases read
        obtain ⟨tree, spells, same⟩ := ih.value room held value rest readHeld
        exact ⟨chars, named, held, tree, literal, colon, spells, rfl, same⟩
      · simp at read
    · simp [stopAt] at read

omit ih in
/-- The readers call one another with less fuel. -/
theorem read_sound : Sound fuel := by
  induction fuel with
  | zero =>
      constructor <;> intros <;>
        simp_all [readValue, readItems, readMembers, readMember, stopBefore]
  | succ fuel ih =>
      exact {
        value := value_taken fuel ih
        items := fun room first taken input items rest =>
          items_taken fuel ih room input first taken items rest
        members := fun room first taken input members rest =>
          members_taken fuel ih room input first taken members rest
        member := member_taken fuel ih }

end Sound

/-! What is spelled is taken, if nothing limits the brackets. -/

section Complete

theorem literal_read (chars input rest : List Char) (literal : Literal chars input rest)
    (fuel : Nat) (enough : chars.length < fuel) (taken : List Char) :
    readString fuel taken input = .ok (String.ofList (taken.reverse ++ chars), rest) := by
  induction literal generalizing fuel taken with
  | close rest =>
      obtain ⟨fuel, rfl⟩ : ∃ less, fuel = less + 1 := ⟨fuel - 1, by omega⟩
      simp [readString]
  | plain char chars input rest notQuote notBackslash visible _ ih =>
      obtain ⟨fuel, rfl⟩ : ∃ less, fuel = less + 1 := ⟨fuel - 1, by omega⟩
      have later := ih fuel (by simpa using enough) (char :: taken)
      simpa [readString, notQuote, notBackslash, Nat.not_lt.mpr visible] using later
  | escape char chars input middle rest escaped _ ih =>
      obtain ⟨fuel, rfl⟩ : ∃ less, fuel = less + 1 := ⟨fuel - 1, by omega⟩
      have later := ih fuel (by simpa using enough) (char :: taken)
      simpa [readString, escaped] using later

/-- How the reader of a part ends when it takes the text up to `rest`. -/
def Part.ReadBy (fuel : Nat) (input rest : List Char) : Part → Prop
  | .value tree => readValue fuel none input = .ok (tree.settled, rest)
  | .items first trees => ∀ taken,
      readItems fuel none first taken input = .ok (taken.reverse ++ settledItems trees, rest)
  | .members first trees => ∀ taken,
      readMembers fuel none first taken input =
        .ok (Keyed.merge taken (settledMembers trees), rest)

/-- No value begins with a closing bracket. -/
theorem value_start (tree : Json) (input rest : List Char)
    (spells : Spells (.value tree) input rest) :
    ∃ char others, skipBlanks input = char :: others ∧ isClosing char = false := by
  cases spells with
  | number _ char _ inner _ start digit =>
      exact ⟨char, inner, start, (plain_digit char digit).2.2⟩
  | null _ _ start => exact ⟨_, _, start, rfl⟩
  | yes _ _ start => exact ⟨_, _, start, rfl⟩
  | no _ _ start => exact ⟨_, _, start, rfl⟩
  | negative _ _ _ _ start => exact ⟨_, _, start, rfl⟩
  | str _ _ _ _ start => exact ⟨_, _, start, rfl⟩
  | arr _ _ _ _ start => exact ⟨_, _, start, rfl⟩
  | obj _ _ _ _ start => exact ⟨_, _, start, rfl⟩

theorem digit_not_minus (char : Char) (digit : (digit? char).isSome = true) :
    char ≠ '-' ∧ char ≠ 'n' ∧ char ≠ 't' ∧ char ≠ 'f' := by
  refine ⟨?_, ?_, ?_, ?_⟩ <;> rintro rfl <;> simp [digit?] at digit

-- Every reader but that of literals uses up fuel only as it takes characters, two for each.
theorem spells_read (part : Part) (input rest : List Char) (spells : Spells part input rest)
    (fuel : Nat) (enough : 2 * input.length ≤ fuel + 1 + 2 * rest.length) :
    part.ReadBy (fuel + 1) input rest := by
  induction spells generalizing fuel with
  | null input rest start => simp [Part.ReadBy, readValue, start, readWord, settled]
  | yes input rest start => simp [Part.ReadBy, readValue, start, readWord, settled]
  | no input rest start => simp [Part.ReadBy, readValue, start, readWord, settled]
  | negative number input inner rest start read =>
      simp [Part.ReadBy, readValue, start, read, Reading.mapValue, settled]
  | number number char input inner rest start digit read =>
      obtain ⟨notQuote, notOpening, _⟩ := plain_digit char digit
      obtain ⟨notMinus, notN, notT, notF⟩ := digit_not_minus char digit
      have notBrackets : char ≠ '[' ∧ char ≠ '\x7b' := by simpa [isOpening] using notOpening
      simp [Part.ReadBy, readValue, start, digit, read, Reading.mapValue, settled, notBrackets]
  | str chars input inner rest start literal =>
      have before := start_shorter _ input inner start
      have inside := literal_shorter chars inner rest literal
      have read := literal_read chars inner rest literal fuel (by omega) []
      simp [Part.ReadBy, readValue, start, read, Reading.mapValue, settled]
  | arr trees input inner rest start inside ih =>
      have before := start_shorter _ input inner start
      have shorter := spells_shorter _ inner rest inside
      obtain ⟨fuel, rfl⟩ : ∃ less, fuel = less + 1 := ⟨fuel - 1, by omega⟩
      have read := ih fuel (by omega) []
      simp [Part.ReadBy, readValue, start, roomWithin, read, Reading.mapValue, settled]
  | obj trees input inner rest start inside ih =>
      have before := start_shorter _ input inner start
      have shorter := spells_shorter _ inner rest inside
      obtain ⟨fuel, rfl⟩ : ∃ less, fuel = less + 1 := ⟨fuel - 1, by omega⟩
      have read := ih fuel (by omega) []
      simp [Part.ReadBy, readValue, start, roomWithin, read, Reading.mapValue, settled,
        Keyed.merge, Keyed.ofList]
  | noItem first input rest start => simp [Part.ReadBy, readItems, start, settledItems]
  | item first tree trees input inner middle rest apart head later ihHead ihLater =>
      have before := separated_length first input inner apart
      have shorter := spells_shorter _ inner middle head
      have ends := spells_shorter _ middle rest later
      obtain ⟨fuel, rfl⟩ : ∃ less, fuel = less + 1 := ⟨fuel - 1, by omega⟩
      have readHead : readValue (fuel + 1) none inner = .ok (tree.settled, middle) :=
        ihHead fuel (by omega)
      have readLater := ihLater fuel (by omega)
      intro taken
      obtain ⟨char, others, begins, notClosing⟩ := value_start tree inner middle head
      have notEnd : char ≠ ']' := by
        rintro rfl
        simp [isClosing] at notClosing
      rw [← read_value_blanks, begins] at readHead
      cases first with
      | true =>
          obtain rfl : inner = input := apart
          rw [readItems]
          simp [begins, readHead, readLater (tree.settled :: taken), settledItems]
      | false =>
          have comma : skipBlanks input = ',' :: inner := apart
          rw [readItems]
          simp [comma, begins, notEnd, readHead, readLater (tree.settled :: taken), settledItems]
  | noMember first input rest start =>
      simp [Part.ReadBy, readMembers, start, settledMembers, Keyed.merge]
  | member first chars tree trees input spaced inner named held middle rest apart start literal
      colon head later ihHead ihLater =>
      have before := separated_length first input spaced apart
      have quoted := start_shorter _ spaced inner start
      have key := literal_shorter chars inner named literal
      have valued := start_shorter _ named held colon
      have shorter := spells_shorter _ held middle head
      have ends := spells_shorter _ middle rest later
      obtain ⟨fuel, rfl⟩ : ∃ less, fuel = less + 2 := ⟨fuel - 2, by omega⟩
      have readName := literal_read chars inner named literal (fuel + 1) (by omega) []
      have readHead : readValue (fuel + 1) none held = .ok (tree.settled, middle) :=
        ihHead fuel (by omega)
      have readLater := ihLater (fuel + 1) (by omega)
      have readNamed : readMember (fuel + 2) none inner =
          .ok ((String.ofList chars, tree.settled), middle) := by
        simp [readMember, readName, colon, readHead]
      intro taken
      have merged := readLater (Keyed.insert (String.ofList chars) tree.settled taken)
      cases first with
      | true =>
          obtain rfl : spaced = input := apart
          rw [readMembers]
          simp only [start, readNamed, merged, settledMembers]
          rfl
      | false =>
          have comma : skipBlanks input = ',' :: spaced := apart
          rw [readMembers]
          simp only [comma, start, readNamed, merged, settledMembers]
          rfl

end Complete

section Text

variable (text : String)

theorem read_text_spelled (room : Option Nat) (value : Json)
    (read : readText room text.toList = .ok value) :
    ∃ tree, Spelled tree text ∧ tree.settled = value := by
  obtain ⟨rest, taken, blank⟩ := (read_text_ok value room text.toList).mp read
  obtain ⟨tree, spells, same⟩ := (read_sound _).value room text.toList value rest taken
  exact ⟨tree, ⟨rest, spells, blank⟩, same⟩

theorem spelled_read (tree : Json) (spelled : Spelled tree text) :
    read? text = some tree.settled := by
  obtain ⟨rest, spells, blank⟩ := spelled
  have taken : readValue (3 * text.toList.length + 3) none text.toList =
      .ok (tree.settled, rest) := spells_read _ text.toList rest spells _ (by omega)
  have read := (read_text_ok tree.settled none text.toList).mpr ⟨rest, taken, blank⟩
  simp [read?, read, Except.toOption]

/-- A text is readable just when the grammar admits it. -/
theorem readable_iff (value : Json) :
    read? text = some value ↔ ∃ tree, Spelled tree text ∧ tree.settled = value := by
  constructor
  · intro readable
    cases read : readText none text.toList with
    | error fault => simp [read?, read, Except.toOption] at readable
    | ok result =>
        obtain rfl : result = value := by simpa [read?, read, Except.toOption] using readable
        exact read_text_spelled text none result read
  · rintro ⟨tree, spelled, rfl⟩
    exact spelled_read text tree spelled

theorem limited_spelled (room : Option Nat) (value : Json)
    (read : readLimited room text = .ok value) :
    ∃ tree, Spelled tree text ∧ tree.settled = value := by
  cases taken : readText room text.toList with
  | error fault => simp [readLimited, taken] at read
  | ok result =>
      obtain rfl : result = value := by simpa [readLimited, taken] using read
      exact read_text_spelled text room result taken

/-- A scan of a text reaches a limit just where the nesting of the tree it spells does. -/
theorem spelled_scan (tree : Json) (spelled : Spelled tree text) (limit : Nat)
    (positive : 0 < limit) : nestingReaches limit text = decide (limit ≤ tree.nesting) := by
  obtain ⟨rest, spells, blank⟩ := spelled
  have scanned := spells_scan limit _ text.toList rest spells 0 positive
  simpa [nestingReaches, Part.level, Part.nesting, outside_blanks limit 0 rest blank] using scanned

end Text

end FormEngine.Json
