import FormEngine.Json.Basic
import FormEngine.Text.Hex

/-!
Reading JSON text. A fault names its cause and the place where reading stopped: the text not yet
taken there, and how many bytes of that text count as part of the place. Line and column follow
from these, so no position is carried along while reading.

Integers that fit 64 bits stay integers. Every other number becomes a floating one in two rounded
steps: its leading digits, as many as fit 64 bits, and then one scaling by a power of ten.
-/

namespace FormEngine.Json

inductive ReadCause where
  | endInList
  | endInObject
  | endInString
  | endInValue
  | expectedColon
  | expectedListCommaOrEnd
  | expectedObjectCommaOrEnd
  | expectedWord
  | expectedValue
  | invalidEscape
  | invalidNumber
  | numberOutOfRange
  | controlInString
  | keyMustBeString
  | loneLeadingSurrogate
  | trailingComma
  | trailingCharacters
  | unexpectedEndOfEscape
  | tooDeep
  deriving DecidableEq

def ReadCause.message : ReadCause → String
  | .endInList => "EOF while parsing a list"
  | .endInObject => "EOF while parsing an object"
  | .endInString => "EOF while parsing a string"
  | .endInValue => "EOF while parsing a value"
  | .expectedColon => "expected \x60:\x60"
  | .expectedListCommaOrEnd => "expected \x60,\x60 or \x60]\x60"
  | .expectedObjectCommaOrEnd => "expected \x60,\x60 or \x60\x7d\x60"
  | .expectedWord => "expected ident"
  | .expectedValue => "expected value"
  | .invalidEscape => "invalid escape"
  | .invalidNumber => "invalid number"
  | .numberOutOfRange => "number out of range"
  | .controlInString => "control character (\\u0000-\\u001F) found while parsing a string"
  | .keyMustBeString => "key must be a string"
  | .loneLeadingSurrogate => "lone leading surrogate in hex escape"
  | .trailingComma => "trailing comma"
  | .trailingCharacters => "trailing characters"
  | .unexpectedEndOfEscape => "unexpected end of hex escape"
  | .tooDeep => "recursion limit exceeded"

-- `taken` bytes of `rest` lie before the place of the fault.
structure Fault where
  cause : ReadCause
  rest : List Char
  taken : Nat

abbrev Reading (Value : Type) := Except Fault (Value × List Char)

def Reading.mapValue {Value Result : Type} (build : Value → Result) :
    Reading Value → Reading Result
  | .ok (value, rest) => .ok (build value, rest)
  | .error fault => .error fault

/-- A fault before `rest`, and one that includes the next byte if there is one. -/
def stopBefore {Value : Type} (cause : ReadCause) (rest : List Char) : Except Fault Value :=
  .error ⟨cause, rest, 0⟩

def stopAt {Value : Type} (cause : ReadCause) (rest : List Char) : Except Fault Value :=
  .error ⟨cause, rest, 1⟩

def isBlank (char : Char) : Bool :=
  char == ' ' || char == '\t' || char == '\n' || char == '\r'

def skipBlanks : List Char → List Char
  | [] => []
  | char :: rest => if isBlank char then skipBlanks rest else char :: rest

def digit? (char : Char) : Option Nat :=
  if '0' ≤ char ∧ char ≤ '9' then some (char.toNat - 48) else none

def skipDigits : List Char → List Char
  | [] => []
  | char :: rest => if (digit? char).isSome then skipDigits rest else char :: rest

section Numbers

/-- A significand has to stay within 64 bits. -/
def significandLimit : Nat := Nat.pow 2 64
def exponentLimit : Nat := Nat.pow 2 31

/-- Digits appended to a significand while it fits, with their number. -/
def takeDigits (significand count : Nat) : List Char → Nat × Nat × List Char
  | [] => (significand, count, [])
  | char :: rest =>
      match digit? char with
      | none => (significand, count, char :: rest)
      | some digit =>
          if significand * 10 + digit < significandLimit then
            takeDigits (significand * 10 + digit) (count + 1) rest
          else (significand, count, char :: rest)

def powerOfTen (exponent : Nat) : Number.Binary64 :=
  (Number.Binary64.ofNat? (Nat.pow 10 exponent)).getD .zero

/-- A divisor past the table is applied in steps of the largest power; a quotient of zero stays. -/
def scaleDown : Nat → Number.Binary64 → Nat → Number.Binary64
  | 0, _, _ => .zero
  | fuel + 1, magnitude, exponent =>
      if exponent ≤ 308 then (magnitude.div? (powerOfTen exponent)).getD .zero
      else if magnitude.isZero then magnitude
      else scaleDown fuel ((magnitude.div? (powerOfTen 308)).getD .zero) (exponent - 308)

def scale? (significand : Nat) (exponent : Int) : Option Number.Binary64 := do
  let magnitude ← Number.Binary64.ofNat? significand
  if exponent < 0 then some (scaleDown 4 magnitude (-exponent).toNat)
  else if exponent ≤ 308 then magnitude.mul? (powerOfTen exponent.toNat)
  else if magnitude.isZero then some magnitude
  else none

def floating (negative : Bool) (significand : Nat) (exponent : Int) (rest : List Char) :
    Reading Json.Number :=
  match scale? significand exponent with
  | some magnitude => .ok (.floating negative magnitude, rest)
  | none => stopBefore .numberOutOfRange rest

/-- The digits of an exponent that no longer fit, with what is left after them. -/
def takeExponent (value : Nat) : List Char → Except (List Char) (Nat × List Char)
  | [] => .ok (value, [])
  | char :: rest =>
      match digit? char with
      | none => .ok (value, char :: rest)
      | some digit =>
          if value * 10 + digit < exponentLimit then takeExponent (value * 10 + digit) rest
          else .error rest

/-- Called after the letter of the exponent. -/
def readExponent (negative : Bool) (significand : Nat) (start : Int) (input : List Char) :
    Reading Json.Number :=
  let (below, digits) : Bool × List Char :=
    match input with
    | '+' :: rest => (false, rest)
    | '-' :: rest => (true, rest)
    | rest => (false, rest)
  match digits with
  | [] => stopBefore .endInValue []
  | first :: rest =>
      match digit? first with
      | none => stopAt .invalidNumber (first :: rest)
      | some value =>
          match takeExponent value rest with
          | .ok (exponent, rest) =>
              floating negative significand
                (if below then start - (exponent : Int) else start + (exponent : Int)) rest
          | .error rest =>
              if significand ≠ 0 ∧ below = false then stopBefore .numberOutOfRange rest
              else .ok (.floating negative .zero, skipDigits rest)

def readAfterDigits (negative : Bool) (significand : Nat) (exponent : Int) (input : List Char) :
    Reading Json.Number :=
  match input with
  | 'e' :: rest => readExponent negative significand exponent rest
  | 'E' :: rest => readExponent negative significand exponent rest
  | rest => floating negative significand exponent rest

/-- Called after the decimal point. Digits that no longer fit are dropped. -/
def readFraction (negative : Bool) (significand : Nat) (exponent : Int) (input : List Char) :
    Reading Json.Number :=
  let (longer, count, rest) := takeDigits significand 0 input
  match rest with
  | [] =>
      if count = 0 then stopAt .endInValue []
      else floating negative longer (exponent - (count : Int)) []
  | next :: _ =>
      if (digit? next).isSome then
        readAfterDigits negative longer (exponent - (count : Int)) (skipDigits rest)
      else if count = 0 then stopAt .invalidNumber rest
      else readAfterDigits negative longer (exponent - (count : Int)) rest

/-- A whole part too long for 64 bits: the digits left out only raise the exponent. -/
def readLong (negative : Bool) (significand : Nat) (input : List Char) : Reading Json.Number :=
  let rest := skipDigits input
  let exponent : Int := (input.length : Int) - (rest.length : Int)
  match rest with
  | '.' :: rest => readFraction negative significand exponent rest
  | rest => readAfterDigits negative significand exponent rest

/-- Minus zero and integers below the signed range are floating numbers. -/
def wholeNumber (negative : Bool) (significand : Nat) (rest : List Char) : Reading Json.Number :=
  if negative = false then .ok (.integer significand, rest)
  else if significand = 0 ∨ Nat.pow 2 63 < significand then floating true significand 0 rest
  else .ok (.integer (-(significand : Int)), rest)

def readWhole (negative : Bool) (significand : Nat) (input : List Char) : Reading Json.Number :=
  match input with
  | '.' :: rest => readFraction negative significand 0 rest
  | 'e' :: rest => readExponent negative significand 0 rest
  | 'E' :: rest => readExponent negative significand 0 rest
  | rest => wholeNumber negative significand rest

/-- Called after the sign. -/
def readNumber (negative : Bool) (input : List Char) : Reading Json.Number :=
  match input with
  | [] => stopBefore .endInValue []
  | '0' :: rest =>
      match rest with
      | next :: _ => if (digit? next).isSome then stopAt .invalidNumber rest
                     else readWhole negative 0 rest
      | [] => readWhole negative 0 []
  | first :: rest =>
      match digit? first with
      | none => stopAt .invalidNumber (first :: rest)
      | some digit =>
          let (significand, _, rest) := takeDigits digit 0 rest
          match rest with
          | next :: _ => if (digit? next).isSome then readLong negative significand rest
                         else readWhole negative significand rest
          | [] => readWhole negative significand []

end Numbers

section Strings

/-- The length of a text in bytes. -/
def byteCount (chars : List Char) : Nat :=
  chars.foldr (fun char count => char.utf8Size + count) 0

/-- Four hexadecimal digits; places count bytes, so the fault lies four bytes on. -/
def readHex (input : List Char) : Reading Nat :=
  match input with
  | first :: second :: third :: fourth :: rest =>
      match Text.hexValue? first, Text.hexValue? second, Text.hexValue? third,
          Text.hexValue? fourth with
      | some a, some b, some c, some d => .ok (((a * 16 + b) * 16 + c) * 16 + d, rest)
      | _, _, _, _ => .error ⟨.invalidEscape, input, 4⟩
  | few =>
      if byteCount few < 4 then stopBefore .endInString []
      else .error ⟨.invalidEscape, few, 4⟩

/-- Called after a leading surrogate. -/
def readTrailing (leading : Nat) (input : List Char) : Reading Char :=
  match input with
  | [] => stopBefore .endInString []
  | '\\' :: [] => stopBefore .endInString []
  | '\\' :: 'u' :: rest =>
      match readHex rest with
      | .error fault => .error fault
      | .ok (trailing, rest) =>
          if trailing < 0xDC00 ∨ 0xDFFF < trailing then stopBefore .loneLeadingSurrogate rest
          else .ok (Char.ofNat (0x10000 + (leading - 0xD800) * 0x400 + (trailing - 0xDC00)), rest)
  | '\\' :: rest => stopAt .unexpectedEndOfEscape rest
  | rest => stopAt .unexpectedEndOfEscape rest

/-- Called after the letter u. A leading surrogate needs a trailing one in a second escape. -/
def readUnicode (input : List Char) : Reading Char :=
  match readHex input with
  | .error fault => .error fault
  | .ok (unit, rest) =>
      if 0xDC00 ≤ unit ∧ unit ≤ 0xDFFF then stopBefore .loneLeadingSurrogate rest
      else if unit < 0xD800 ∨ 0xDBFF < unit then .ok (Char.ofNat unit, rest)
      else readTrailing unit rest

/-- Called after the backslash. -/
def readEscape (input : List Char) : Reading Char :=
  match input with
  | [] => stopBefore .endInString []
  | '"' :: rest => .ok ('"', rest)
  | '\\' :: rest => .ok ('\\', rest)
  | '/' :: rest => .ok ('/', rest)
  | 'b' :: rest => .ok (Char.ofNat 8, rest)
  | 'f' :: rest => .ok (Char.ofNat 12, rest)
  | 'n' :: rest => .ok ('\n', rest)
  | 'r' :: rest => .ok ('\r', rest)
  | 't' :: rest => .ok ('\t', rest)
  | 'u' :: rest => readUnicode rest
  | rest => stopAt .invalidEscape rest

/-- Called after the opening quote; `taken` holds the characters so far, last first. -/
def readString (fuel : Nat) (taken : List Char) (input : List Char) : Reading String :=
  match fuel, input with
  | 0, _ => stopBefore .endInString []
  | _ + 1, [] => stopBefore .endInString []
  | fuel + 1, char :: rest =>
      if char = '"' then .ok (String.ofList taken.reverse, rest)
      else if char = '\\' then
        match readEscape rest with
        | .ok (char, rest) => readString fuel (char :: taken) rest
        | .error fault => .error fault
      else if char.toNat < 32 then stopAt .controlInString (char :: rest)
      else readString fuel (char :: taken) rest

end Strings

section Values

def readWord (word : List Char) (value : Json) (input : List Char) : Reading Json :=
  match word, input with
  | [], rest => .ok (value, rest)
  | _ :: _, [] => stopBefore .endInValue []
  | expected :: word, char :: rest =>
      if char = expected then readWord word value rest
      else stopAt .expectedWord (char :: rest)

/-- One bracket deeper, if there is room. -/
def roomWithin : Option Nat → Option (Option Nat)
  | none => some none
  | some 0 => none
  | some (room + 1) => some (some room)

mutual
-- `room` is how many more brackets may open inside one another, none without a limit.
def readValue (fuel : Nat) (room : Option Nat) (input : List Char) : Reading Json :=
  match fuel with
  | 0 => stopBefore .endInValue []
  | fuel + 1 =>
      match skipBlanks input with
      | [] => stopAt .endInValue []
      | '"' :: rest => (readString fuel [] rest).mapValue .str
      | '[' :: rest =>
          match roomWithin room with
          | none => stopAt .tooDeep ('[' :: rest)
          | some room => (readItems fuel room true [] rest).mapValue .arr
      | '\x7b' :: rest =>
          match roomWithin room with
          | none => stopAt .tooDeep ('\x7b' :: rest)
          | some room => (readMembers fuel room true [] rest).mapValue .obj
      | 'n' :: rest => readWord ['u', 'l', 'l'] .null rest
      | 't' :: rest => readWord ['r', 'u', 'e'] (.bool true) rest
      | 'f' :: rest => readWord ['a', 'l', 's', 'e'] (.bool false) rest
      | '-' :: rest => (readNumber true rest).mapValue .num
      | char :: rest =>
          if (digit? char).isSome then (readNumber false (char :: rest)).mapValue .num
          else stopAt .expectedValue (char :: rest)

/-- Called after the opening bracket or after an item; `taken` holds the items, last first. -/
def readItems (fuel : Nat) (room : Option Nat) (first : Bool) (taken : List Json)
    (input : List Char) : Reading (List Json) :=
  match fuel with
  | 0 => stopBefore .endInList []
  | fuel + 1 =>
      match skipBlanks input with
      | [] => stopAt .endInList []
      | ']' :: rest => .ok (taken.reverse, rest)
      | next :: rest =>
          if first then
            match readValue fuel room (next :: rest) with
            | .ok (item, rest) => readItems fuel room false (item :: taken) rest
            | .error fault => .error fault
          else if next = ',' then
            match skipBlanks rest with
            | [] => stopAt .endInValue []
            | ']' :: rest => stopAt .trailingComma (']' :: rest)
            | rest =>
                match readValue fuel room rest with
                | .ok (item, rest) => readItems fuel room false (item :: taken) rest
                | .error fault => .error fault
          else stopAt .expectedListCommaOrEnd (next :: rest)

/-- Called after the opening bracket or after a member. -/
def readMembers (fuel : Nat) (room : Option Nat) (first : Bool) (taken : List (String × Json))
    (input : List Char) : Reading (List (String × Json)) :=
  match fuel with
  | 0 => stopBefore .endInObject []
  | fuel + 1 =>
      match skipBlanks input with
      | [] => stopAt .endInObject []
      | '\x7d' :: rest => .ok (taken, rest)
      | '"' :: rest =>
          if first then
            match readMember fuel room rest with
            | .ok ((name, value), rest) =>
                readMembers fuel room false (Keyed.insert name value taken) rest
            | .error fault => .error fault
          else stopAt .expectedObjectCommaOrEnd ('"' :: rest)
      | ',' :: rest =>
          if first then stopAt .keyMustBeString (',' :: rest)
          else
            match skipBlanks rest with
            | [] => stopAt .endInValue []
            | '"' :: rest =>
                match readMember fuel room rest with
                | .ok ((name, value), rest) =>
                    readMembers fuel room false (Keyed.insert name value taken) rest
                | .error fault => .error fault
            | '\x7d' :: rest => stopAt .trailingComma ('\x7d' :: rest)
            | rest => stopAt .keyMustBeString rest
      | rest =>
          if first then stopAt .keyMustBeString rest
          else stopAt .expectedObjectCommaOrEnd rest

/-- Called after the opening quote of the key. -/
def readMember (fuel : Nat) (room : Option Nat) (input : List Char) : Reading (String × Json) :=
  match fuel with
  | 0 => stopBefore .endInObject []
  | fuel + 1 =>
      match readString fuel [] input with
      | .error fault => .error fault
      | .ok (name, rest) =>
          match skipBlanks rest with
          | [] => stopAt .endInObject []
          | ':' :: rest =>
              match readValue fuel room rest with
              | .ok (value, rest) => .ok ((name, value), rest)
              | .error fault => .error fault
          | rest => stopAt .expectedColon rest
end

end Values

/-- A whole text: one value, blanks around it and nothing else. -/
def readText (room : Option Nat) (input : List Char) : Except Fault Json := do
  let (value, rest) ← readValue (3 * input.length + 3) room input
  match skipBlanks rest with
  | [] => .ok value
  | rest => stopAt .trailingCharacters rest

structure Position where
  line : Nat
  column : Nat
  deriving DecidableEq

/-- The line of a byte offset, and the bytes of that line before the offset. -/
def positionOf (offset : Nat) (position : Position) : List Char → Position
  | [] => position
  | char :: rest =>
      if offset = 0 then position
      else if char = '\n' then positionOf (offset - 1) ⟨position.line + 1, 0⟩ rest
      else if offset ≤ char.utf8Size then ⟨position.line, position.column + offset⟩
      else positionOf (offset - char.utf8Size) ⟨position.line, position.column + char.utf8Size⟩ rest

structure ReadError where
  cause : ReadCause
  position : Position
  deriving DecidableEq

def ReadError.message (error : ReadError) : String :=
  error.cause.message ++ " at line " ++ toString error.position.line ++
    " column " ++ toString error.position.column

def Fault.locate (fault : Fault) (input : List Char) : ReadError :=
  let size := byteCount input
  let offset := min size (size - byteCount fault.rest + fault.taken)
  ⟨fault.cause, positionOf offset ⟨1, 0⟩ input⟩

def readLimited (room : Option Nat) (text : String) : Except ReadError Json :=
  match readText room text.toList with
  | .ok value => .ok value
  | .error fault => .error (fault.locate text.toList)

/-- Text with any nesting. -/
def read? (text : String) : Option Json := (readText none text.toList).toOption

end FormEngine.Json
