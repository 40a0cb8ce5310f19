import FormEngine.Json.Reader

/-!
Scalars that stand without quotes: flags, numbers, dates and times. Which of these a word is meant
to be is told by how it begins, and it has to be well-formed as that. Settings take flags and whole
numbers of 64 bits only; all other scalars are told apart from faults of the text, but their values
are not kept.
-/

namespace FormEngine.Toml

/-- Stands for floating numbers, dates, times and numbers that are out of range. No setting takes a
number that is not whole. -/
def unusable : Json := .num (.floating false ⟨0, 0⟩)

section Digits

def isDigit (char : Char) : Bool := '0' ≤ char && char ≤ '9'

def isHexDigit (char : Char) : Bool := (Text.hexValue? char).isSome

/-- Underscores stand between digits. -/
def underscoresFit (digit : Char → Bool) (word : List Char) : Bool :=
  match word.splitOnP fun char => char == '_' with
  | [] => true
  | first :: later =>
      later.all (fun part => part.head?.any digit) &&
        (later.isEmpty || (first :: later.dropLast).all fun part => part.getLast?.any digit)

def digitsValue? (base value : Nat) : List Char → Option Nat
  | [] => some value
  | char :: rest =>
      match Text.hexValue? char with
      | some digit => if digit < base then digitsValue? base (value * base + digit) rest else none
      | none => none

def ofWhole (value : Int) : Json :=
  if -(Nat.pow 2 63 : Int) ≤ value ∧ value < (Nat.pow 2 64 : Int) then
    .num (.integer value)
  else unusable

def wholeOf (base : Nat) (negative : Bool) (digits : List Char) : Json :=
  if digits.isEmpty then unusable
  else
    match digitsValue? base 0 digits with
    | some value => ofWhole (if negative then -(value : Int) else value)
    | none => unusable

def withoutUnderscores (word : List Char) : List Char := word.filter fun char => char != '_'

end Digits

section Based

/-- Called after the letter of the base. -/
def based? (base : Nat) (word : List Char) : Option Json :=
  let known (char : Char) : Bool :=
    char == '_' || (Text.hexValue? char).any fun digit => digit < base
  if word.all known && underscoresFit isHexDigit word then
    some (wholeOf base false (withoutUnderscores word))
  else none

end Based

section Times

def twoDigits? : List Char → Option (Nat × List Char)
  | first :: second :: rest =>
      if isDigit first && isDigit second then
        some ((first.toNat - 48) * 10 + (second.toNat - 48), rest)
      else none
  | _ => none

def twoDigitsWithin? (least greatest : Nat) (input : List Char) : Option (Nat × List Char) :=
  (twoDigits? input).filter fun found => least ≤ found.1 && found.1 ≤ greatest

def dropMark? (mark : Char) : List Char → Option (List Char)
  | char :: rest => if char = mark then some rest else none
  | [] => none

def isLeapYear (year : Nat) : Bool := year % 4 == 0 && (year % 100 != 0 || year % 400 == 0)

def daysIn (year month : Nat) : Nat :=
  match month with
  | 2 => if isLeapYear year then 29 else 28
  | 4 | 6 | 9 | 11 => 30
  | _ => 31

/-- What follows a date. -/
def afterDate? (input : List Char) : Option (List Char) := do
  let (century, rest) ← twoDigits? input
  let (inCentury, rest) ← twoDigits? rest
  let (month, rest) ← twoDigitsWithin? 1 12 (← dropMark? '-' rest)
  let (_, rest) ← twoDigitsWithin? 1 (daysIn (century * 100 + inCentury) month)
    (← dropMark? '-' rest)
  some rest

def afterFraction? : List Char → Option (List Char)
  | '.' :: rest =>
      match rest with
      | char :: _ => if isDigit char then some (rest.dropWhile isDigit) else none
      | [] => none
  | rest => some rest

/-- What follows a time of day; seconds may be left out, and there may be leap seconds. -/
def afterTime? (input : List Char) : Option (List Char) := do
  let (_, rest) ← twoDigitsWithin? 0 23 input
  let (_, rest) ← twoDigitsWithin? 0 59 (← dropMark? ':' rest)
  match rest with
  | ':' :: rest =>
      let (_, rest) ← twoDigitsWithin? 0 60 rest
      afterFraction? rest
  | rest => some rest

def afterOffset? : List Char → Option (List Char)
  | 'Z' :: rest => some rest
  | 'z' :: rest => some rest
  | '+' :: rest => distance rest
  | '-' :: rest => distance rest
  | rest => some rest
where
  distance (input : List Char) : Option (List Char) := do
    let (_, rest) ← twoDigitsWithin? 0 23 input
    let (_, rest) ← twoDigitsWithin? 0 59 (← dropMark? ':' rest)
    some rest

def isDate (word : List Char) : Bool := afterDate? word == some []

/-- A date, a time, or both; only both together may have an offset. -/
def isMoment (word : List Char) : Bool :=
  let complete (after : Option (List Char)) : Bool := after == some []
  match afterDate? word with
  | none => complete (afterTime? word)
  | some [] => true
  | some (separator :: rest) =>
      (separator == 'T' || separator == 't' || separator == ' ') &&
        complete ((afterTime? rest).bind afterOffset?)

end Times

section Floats

/-- Skips digits and underscores; without a digit, or with one after a leading zero where none may
stand, there is nothing. -/
def afterDigits? (leadingZero : Bool) (input : List Char) : Option (List Char) :=
  let taken := input.takeWhile fun char => isDigit char || char == '_'
  let count := (taken.filter isDigit).length
  if count = 0 then none
  else if 1 < count && taken.head? == some '0' && !leadingZero then none
  else some (input.drop taken.length)

def afterFloatFraction? : List Char → Option (List Char)
  | '.' :: rest => afterDigits? true rest
  | rest => some rest

def afterExponent? : List Char → Option (List Char)
  | [] => some []
  | mark :: rest =>
      if mark = 'e' ∨ mark = 'E' then
        match rest with
        | '+' :: rest => afterDigits? true rest
        | '-' :: rest => afterDigits? true rest
        | rest => afterDigits? true rest
      else some (mark :: rest)

/-- A floating number without its sign. -/
def isFloat (word : List Char) : Bool :=
  ((afterDigits? false word).bind afterFloatFraction?).bind afterExponent? == some []

end Floats

section Words

/-- A decimal number, a date or a time; `word` holds the sign too, which only a number can have. -/
def number? (word : List Char) (negative : Bool) (unsigned : List Char) : Option Json :=
  let leadingZero := unsigned.head? == some '0' && 1 < unsigned.length
  match unsigned.dropWhile isDigit with
  | [] => if leadingZero then none else some (wholeOf 10 negative unsigned)
  | mark :: rest =>
      if mark = '-' ∨ mark = ':' then
        if isMoment word then some unusable else none
      else if (mark :: rest).any fun char => char == '.' || char == 'e' || char == 'E' then
        if isFloat unsigned && underscoresFit isDigit word then some unusable else none
      else if mark = '_' then
        if !leadingZero && underscoresFit isHexDigit word then
          some (wholeOf 10 negative (withoutUnderscores unsigned))
        else none
      else none

/-- What may stand with a sign and without. -/
def signed? (word : List Char) (negative : Bool) (unsigned : List Char) : Option Json :=
  if unsigned = "inf".toList ∨ unsigned = "nan".toList then some unusable
  else
    match unsigned with
    | [] => none
    | first :: _ => if isDigit first || first == '_' then number? word negative unsigned else none

def scalar? (word : List Char) : Option Json :=
  match word with
  | '0' :: 'x' :: rest => based? 16 rest
  | '0' :: 'o' :: rest => based? 8 rest
  | '0' :: 'b' :: rest => based? 2 rest
  | '+' :: rest => signed? word false rest
  | '-' :: rest => signed? word true rest
  | _ =>
      if word = "true".toList then some (.bool true)
      else if word = "false".toList then some (.bool false)
      else signed? word false word

def isWordChar (char : Char) : Bool :=
  char.isAlphanum || char == '_' || char == '+' || char == '-' || char == '.' || char == ':'

/-- A date and a time may be apart by one space. -/
def readScalar (input : List Char) : Option (Json × List Char) :=
  let word := input.takeWhile isWordChar
  let rest := input.drop word.length
  let alone := (scalar? word).map fun value => (value, rest)
  match rest with
  | ' ' :: next :: more =>
      if isDate word && isWordChar next then
        let time := (next :: more).takeWhile isWordChar
        (scalar? (word ++ ' ' :: time)).map fun value => (value, (next :: more).drop time.length)
      else alone
  | _ => alone

end Words

end FormEngine.Toml
