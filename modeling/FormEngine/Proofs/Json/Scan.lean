import FormEngine.Json.Nesting
import FormEngine.Json.Reader

/-!
What a scan for brackets sees of the text that a reader takes. Blanks, words and numbers leave the
scan where it was, and a string literal, with its escapes, brings it back outside at the same depth.
-/

namespace FormEngine.Json

section Plain

/-- A character that says nothing about nesting, outside string literals. -/
def Plain (char : Char) : Prop :=
  char ≠ '"' ∧ isOpening char = false ∧ isClosing char = false

/-- Whatever lies between the two texts leaves a scan where it was. -/
def Passes (input rest : List Char) : Prop :=
  ∀ limit depth, nestingReachesFrom limit .outside depth input =
    nestingReachesFrom limit .outside depth rest

theorem passes_trans (input middle rest : List Char) (first : Passes input middle)
    (second : Passes middle rest) : Passes input rest := fun limit depth =>
  (first limit depth).trans (second limit depth)

theorem passes_plain (char : Char) (rest : List Char) (plain : Plain char) :
    Passes (char :: rest) rest := by
  intro limit depth
  obtain ⟨notQuote, notOpening, notClosing⟩ := plain
  simp [nestingReachesFrom, notQuote, notOpening, notClosing]

theorem passes_cons (char : Char) (input rest : List Char) (plain : Plain char)
    (later : Passes input rest) : Passes (char :: input) rest :=
  passes_trans _ input rest (passes_plain char input plain) later

theorem passes_all (taken rest : List Char) (plain : ∀ char ∈ taken, Plain char) :
    Passes (taken ++ rest) rest := by
  induction taken with
  | nil => exact fun _ _ => rfl
  | cons char others ih =>
      obtain ⟨head, tail⟩ := List.forall_mem_cons.mp plain
      exact passes_cons char (others ++ rest) rest head (ih tail)

/-- Only such characters lie between the two texts. -/
def Takes (input rest : List Char) : Prop :=
  ∃ taken, input = taken ++ rest ∧ ∀ char ∈ taken, Plain char

theorem takes_passes (input rest : List Char) (takes : Takes input rest) : Passes input rest := by
  obtain ⟨taken, rfl, plain⟩ := takes
  exact passes_all taken rest plain

theorem takes_none (rest : List Char) : Takes rest rest := ⟨[], rfl, by simp⟩

theorem takes_trans (input middle rest : List Char) (first : Takes input middle)
    (second : Takes middle rest) : Takes input rest := by
  obtain ⟨taken, rfl, plain⟩ := first
  obtain ⟨more, rfl, others⟩ := second
  exact ⟨taken ++ more, by simp, List.forall_mem_append.mpr ⟨plain, others⟩⟩

theorem takes_plain (char : Char) (rest : List Char) (plain : Plain char) :
    Takes (char :: rest) rest := ⟨[char], rfl, by simpa using plain⟩

theorem takes_cons (char : Char) (input rest : List Char) (plain : Plain char)
    (later : Takes input rest) : Takes (char :: input) rest :=
  takes_trans _ input rest (takes_plain char input plain) later

theorem takes_length (input rest : List Char) (takes : Takes input rest) :
    rest.length ≤ input.length := by
  obtain ⟨taken, rfl, _⟩ := takes
  simp

theorem plain_digit (char : Char) (digit : (digit? char).isSome = true) : Plain char := by
  have different : ∀ other, digit? other = none → char ≠ other := by
    rintro other none rfl
    simp [none] at digit
  simp [Plain, isOpening, isClosing, different _ (by decide : digit? '"' = none),
    different _ (by decide : digit? '[' = none), different _ (by decide : digit? '\x7b' = none),
    different _ (by decide : digit? ']' = none), different _ (by decide : digit? '\x7d' = none)]

theorem plain_blank (char : Char) (blank : isBlank char = true) : Plain char := by
  have same : char = ' ' ∨ char = '\t' ∨ char = '\n' ∨ char = '\r' := by
    simpa [isBlank, or_assoc] using blank
  rcases same with rfl | rfl | rfl | rfl <;> simp [Plain, isOpening, isClosing]

theorem takes_blanks (input : List Char) : Takes input (skipBlanks input) := by
  induction input with
  | nil => exact takes_none _
  | cons char rest ih =>
      by_cases blank : isBlank char = true
      · simpa [skipBlanks, blank] using takes_cons char rest _ (plain_blank char blank) ih
      · simp only [skipBlanks, blank]
        exact takes_none _

theorem passes_blanks (input : List Char) : Passes input (skipBlanks input) :=
  takes_passes input _ (takes_blanks input)

theorem passes_word (word : List Char) (plain : ∀ char ∈ word, Plain char) (value result : Json)
    (input rest : List Char) (read : readWord word value input = .ok (result, rest)) :
    Passes input rest := by
  induction word generalizing input with
  | nil =>
      cases read
      exact fun _ _ => rfl
  | cons expected word ih =>
      cases input with
      | nil => simp [readWord, stopBefore] at read
      | cons char others =>
          by_cases same : char = expected
          · have later := ih (fun other listed => plain other (List.mem_cons_of_mem _ listed))
              others (by simpa [readWord, same] using read)
            exact passes_cons char others rest (same ▸ plain expected List.mem_cons_self) later
          · simp [readWord, same, stopAt] at read

end Plain

section Numbers

theorem takes_digits (input : List Char) : Takes input (skipDigits input) := by
  induction input with
  | nil => exact takes_none _
  | cons char rest ih =>
      by_cases digit : (digit? char).isSome = true
      · simpa [skipDigits, digit] using takes_cons char rest _ (plain_digit char digit) ih
      · simp only [skipDigits, digit]
        exact takes_none _

theorem takes_taken (significand count : Nat) (input : List Char) :
    Takes input (takeDigits significand count input).2.2 := by
  induction input generalizing significand count with
  | nil => exact takes_none _
  | cons char rest ih =>
      cases digit : digit? char with
      | none =>
          simp only [takeDigits, digit]
          exact takes_none _
      | some value =>
          simp only [takeDigits, digit]
          split
          · exact takes_cons char rest _ (plain_digit char (by simp [digit])) (ih _ _)
          · exact takes_none _

theorem takes_exponent_digits (value exponent : Nat) (input rest : List Char)
    (read : takeExponent value input = .ok (exponent, rest) ∨
      takeExponent value input = .error rest) : Takes input rest := by
  induction input generalizing value with
  | nil =>
      simp only [takeExponent, reduceCtorEq, or_false] at read
      cases read
      exact takes_none _
  | cons char others ih =>
      cases digit : digit? char with
      | none =>
          simp only [takeExponent, digit, reduceCtorEq, or_false] at read
          cases read
          exact takes_none _
      | some next =>
          have plain := plain_digit char (by simp [digit])
          simp only [takeExponent, digit] at read
          split at read
          · exact takes_cons char others rest plain (ih _ read)
          · simp only [reduceCtorEq, false_or] at read
            obtain rfl := Except.error.inj read
            exact takes_plain char _ plain

theorem floating_rest (negative : Bool) (significand : Nat) (exponent : Int)
    (number : Json.Number) (input rest : List Char)
    (read : floating negative significand exponent input = .ok (number, rest)) : input = rest := by
  unfold floating at read
  split at read
  · cases read
    rfl
  · simp [stopBefore] at read

theorem takes_exponent (negative : Bool) (significand : Nat) (start : Int)
    (number : Json.Number) (input rest : List Char)
    (read : readExponent negative significand start input = .ok (number, rest)) :
    Takes input rest := by
  unfold readExponent at read
  split at read
  rename_i below digits sign
  have signed : Takes input digits := by
    split at sign
    all_goals cases sign
    · exact takes_plain '+' _ (by simp [Plain, isOpening, isClosing])
    · exact takes_plain '-' _ (by simp [Plain, isOpening, isClosing])
    · exact takes_none _
  refine takes_trans input digits rest signed ?_
  cases digits with
  | nil => simp [stopBefore] at read
  | cons first others =>
      cases digit : digit? first with
      | none => simp [digit, stopAt] at read
      | some value =>
          have plain := plain_digit first (by simp [digit])
          simp only [digit] at read
          cases taken : takeExponent value others with
          | ok exponent =>
              simp only [taken] at read
              have same := floating_rest _ _ _ _ _ _ read
              exact takes_cons first others rest plain
                (takes_exponent_digits value exponent.1 others rest (Or.inl (same ▸ taken)))
          | error left =>
              simp only [taken] at read
              split at read
              · simp [stopBefore] at read
              · cases read
                exact takes_cons first others _ plain (takes_trans _ left _
                  (takes_exponent_digits value 0 others left (Or.inr taken))
                  (takes_digits left))

theorem takes_after_digits (negative : Bool) (significand : Nat) (exponent : Int)
    (number : Json.Number) (input rest : List Char)
    (read : readAfterDigits negative significand exponent input = .ok (number, rest)) :
    Takes input rest := by
  unfold readAfterDigits at read
  split at read
  · exact takes_cons 'e' _ rest (by simp [Plain, isOpening, isClosing])
      (takes_exponent _ _ _ number _ rest read)
  · exact takes_cons 'E' _ rest (by simp [Plain, isOpening, isClosing])
      (takes_exponent _ _ _ number _ rest read)
  · obtain rfl := floating_rest _ _ _ _ _ _ read
    exact takes_none _

theorem takes_fraction (negative : Bool) (significand : Nat) (exponent : Int)
    (number : Json.Number) (input rest : List Char)
    (read : readFraction negative significand exponent input = .ok (number, rest)) :
    Takes input rest := by
  have taken := takes_taken significand 0 input
  unfold readFraction at read
  generalize takeDigits significand 0 input = result at taken read
  obtain ⟨longer, count, left⟩ := result
  refine takes_trans input left rest taken ?_
  cases left with
  | nil =>
      simp only at read
      split at read
      · simp [stopAt] at read
      · obtain rfl := floating_rest _ _ _ _ _ _ read
        exact takes_none _
  | cons next others =>
      simp only at read
      split at read
      · exact takes_trans _ _ rest (takes_digits (next :: others))
          (takes_after_digits _ _ _ number _ rest read)
      · split at read
        · simp [stopAt] at read
        · exact takes_after_digits _ _ _ number _ rest read

theorem takes_long (negative : Bool) (significand : Nat) (number : Json.Number)
    (input rest : List Char)
    (read : readLong negative significand input = .ok (number, rest)) : Takes input rest := by
  have skipped := takes_digits input
  unfold readLong at read
  refine takes_trans input (skipDigits input) rest skipped ?_
  simp only at read
  split at read
  · rename_i others same
    rw [same]
    exact takes_cons '.' others rest (by simp [Plain, isOpening, isClosing])
      (takes_fraction _ _ _ number others rest read)
  · exact takes_after_digits _ _ _ number _ rest read

theorem takes_whole (negative : Bool) (significand : Nat) (number : Json.Number)
    (input rest : List Char)
    (read : readWhole negative significand input = .ok (number, rest)) : Takes input rest := by
  unfold readWhole at read
  split at read
  · exact takes_cons '.' _ rest (by simp [Plain, isOpening, isClosing])
      (takes_fraction _ _ _ number _ rest read)
  · exact takes_cons 'e' _ rest (by simp [Plain, isOpening, isClosing])
      (takes_exponent _ _ _ number _ rest read)
  · exact takes_cons 'E' _ rest (by simp [Plain, isOpening, isClosing])
      (takes_exponent _ _ _ number _ rest read)
  · unfold wholeNumber at read
    split at read
    · cases read
      exact takes_none _
    · split at read
      · obtain rfl := floating_rest _ _ _ _ _ _ read
        exact takes_none _
      · cases read
        exact takes_none _

/-- A number is at least one character long and holds no brackets and no quotes. -/
theorem takes_number (negative : Bool) (number : Json.Number) (input rest : List Char)
    (read : readNumber negative input = .ok (number, rest)) :
    ∃ first others, input = first :: others ∧ Plain first ∧ Takes others rest := by
  unfold readNumber at read
  split at read
  · simp [stopBefore] at read
  · rename_i others
    refine ⟨'0', others, rfl, by simp [Plain, isOpening, isClosing], ?_⟩
    split at read
    · split at read
      · simp [stopAt] at read
      · exact takes_whole _ _ number _ rest read
    · exact takes_whole _ _ number _ rest read
  · rename_i first others _
    cases digit : digit? first with
    | none => simp [digit, stopAt] at read
    | some value =>
        refine ⟨first, others, rfl, plain_digit first (by simp [digit]), ?_⟩
        have taken := takes_taken value 0 others
        simp only [digit] at read
        generalize takeDigits value 0 others = result at taken read
        obtain ⟨significand, _, left⟩ := result
        apply takes_trans others left rest taken
        cases left with
        | nil => exact takes_whole _ _ number _ rest read
        | cons next more =>
            simp only at read
            split at read
            · exact takes_long _ _ number _ rest read
            · exact takes_whole _ _ number _ rest read

theorem passes_number (negative : Bool) (number : Json.Number) (input rest : List Char)
    (read : readNumber negative input = .ok (number, rest)) : Passes input rest := by
  obtain ⟨first, others, rfl, plain, takes⟩ := takes_number negative number input rest read
  exact takes_passes _ rest (takes_cons first others rest plain takes)

theorem number_shorter (negative : Bool) (number : Json.Number) (input rest : List Char)
    (read : readNumber negative input = .ok (number, rest)) : rest.length < input.length := by
  obtain ⟨first, others, rfl, _, takes⟩ := takes_number negative number input rest read
  exact Nat.lt_succ_of_le (takes_length others rest takes)

end Numbers

section Strings

/-- The same inside a string literal, where only the quote and the backslash count. -/
def PassesInside (input rest : List Char) : Prop :=
  ∀ limit depth, nestingReachesFrom limit .inString depth input =
    nestingReachesFrom limit .inString depth rest

/-- What follows a backslash: its first character never ends the literal. -/
def PassesEscape (input rest : List Char) : Prop :=
  ∀ limit depth, nestingReachesFrom limit .escaped depth input =
    nestingReachesFrom limit .inString depth rest

theorem passes_inside_plain (char : Char) (rest : List Char) (notQuote : char ≠ '"')
    (notBackslash : char ≠ '\\') : PassesInside (char :: rest) rest := by
  intro limit depth
  simp [nestingReachesFrom, notQuote, notBackslash]

theorem hex_inside (char : Char) (value : Nat) (rest : List Char)
    (hex : Text.hexValue? char = some value) : PassesInside (char :: rest) rest := by
  apply passes_inside_plain <;> rintro rfl <;> simp [Text.hexValue?] at hex

theorem passes_hex (value : Nat) (input rest : List Char)
    (read : readHex input = .ok (value, rest)) : PassesInside input rest := by
  unfold readHex at read
  split at read
  · split at read
    · rename_i one two three four
      cases read
      intro limit depth
      rw [hex_inside _ _ _ one, hex_inside _ _ _ two, hex_inside _ _ _ three,
        hex_inside _ _ _ four]
    · simp at read
  · split at read <;> simp [stopBefore] at read

theorem passes_trailing (leading : Nat) (char : Char) (input rest : List Char)
    (read : readTrailing leading input = .ok (char, rest)) : PassesInside input rest := by
  unfold readTrailing at read
  split at read
  · simp [stopBefore] at read
  · simp [stopBefore] at read
  · split at read
    · simp at read
    · rename_i hex
      split at read
      · simp [stopBefore] at read
      · obtain ⟨_, rfl⟩ := Prod.mk.inj (Except.ok.inj read)
        intro limit depth
        simpa [nestingReachesFrom] using passes_hex _ _ _ hex limit depth
  · simp [stopAt] at read
  · simp [stopAt] at read

theorem passes_unicode (char : Char) (input rest : List Char)
    (read : readUnicode input = .ok (char, rest)) : PassesInside input rest := by
  unfold readUnicode at read
  split at read
  · simp at read
  · rename_i unit left hex
    split at read
    · simp [stopBefore] at read
    · split at read
      · cases read
        exact passes_hex unit input rest hex
      · intro limit depth
        rw [passes_hex unit input left hex, passes_trailing unit char left rest read]

theorem passes_escape (char : Char) (input rest : List Char)
    (read : readEscape input = .ok (char, rest)) : PassesEscape input rest := by
  intro limit depth
  unfold readEscape at read
  split at read
  case h_10 =>
    rename_i others
    simpa [nestingReachesFrom] using passes_unicode char others rest read limit depth
  all_goals simp [stopAt, stopBefore] at read
  all_goals simp [nestingReachesFrom, read]

/-- A literal is entered after its opening quote and left behind its closing one. -/
theorem passes_string (fuel : Nat) (taken : List Char) (text : String) (input rest : List Char)
    (read : readString fuel taken input = .ok (text, rest)) (limit depth : Nat) :
    nestingReachesFrom limit .inString depth input =
      nestingReachesFrom limit .outside depth rest := by
  induction fuel generalizing taken input with
  | zero => simp [readString, stopBefore] at read
  | succ fuel ih =>
      cases input with
      | nil => simp [readString, stopBefore] at read
      | cons char others =>
          simp only [readString] at read
          split at read
          · rename_i quote
            cases read
            simp [nestingReachesFrom, quote]
          · rename_i notQuote
            split at read
            · rename_i backslash
              split at read
              · rename_i escape
                simp only [nestingReachesFrom, backslash, ↓reduceIte]
                rw [passes_escape _ _ _ escape, ih _ _ read]
              · simp at read
            · rename_i notBackslash
              split at read
              · simp [stopAt] at read
              · rw [passes_inside_plain char others notQuote notBackslash, ih _ _ read]

end Strings

end FormEngine.Json
