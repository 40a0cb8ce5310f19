import FormEngine.Json.Basic
import FormEngine.Number.Shortest

/-!
The compact text of a JSON value: no blanks, members in key order, and in strings only the quote,
the backslash and the controls below U+0020 written as escapes.
-/

namespace FormEngine.Json

def hexDigit (value : Nat) : Char :=
  if value < 10 then Char.ofNat (48 + value) else Char.ofNat (87 + value)

def escaped (char : Char) : List Char :=
  if char = '"' then ['\\', '"']
  else if char = '\\' then ['\\', '\\']
  else if 32 ≤ char.toNat then [char]
  else if char.toNat = 8 then ['\\', 'b']
  else if char.toNat = 9 then ['\\', 't']
  else if char.toNat = 10 then ['\\', 'n']
  else if char.toNat = 12 then ['\\', 'f']
  else if char.toNat = 13 then ['\\', 'r']
  else ['\\', 'u', '0', '0', hexDigit (char.toNat / 16), hexDigit (char.toNat % 16)]

def quoted (text : String) : List Char :=
  '"' :: (text.toList.flatMap escaped ++ ['"'])

def Number.text : Json.Number → List Char
  | .integer (.ofNat value) => Nat.toDigits 10 value
  | .integer (.negSucc value) => '-' :: Nat.toDigits 10 (value + 1)
  | .floating negative magnitude =>
      let digits := magnitude.shortest.text
      if negative then '-' :: digits else digits

mutual
def text : Json → List Char
  | .null => ['n', 'u', 'l', 'l']
  | .bool true => ['t', 'r', 'u', 'e']
  | .bool false => ['f', 'a', 'l', 's', 'e']
  | .num number => number.text
  | .str value => quoted value
  | .arr items => '[' :: (itemsText items ++ [']'])
  | .obj members => '\x7b' :: (membersText members ++ ['\x7d'])

def itemsText : List Json → List Char
  | [] => []
  | item :: rest =>
      match rest with
      | [] => text item
      | _ :: _ => text item ++ ',' :: itemsText rest

def membersText : List (String × Json) → List Char
  | [] => []
  | (name, value) :: rest =>
      match rest with
      | [] => quoted name ++ ':' :: text value
      | _ :: _ => quoted name ++ ':' :: (text value ++ ',' :: membersText rest)
end

def compact (value : Json) : String := String.ofList value.text

/-- The length of the compact text in bytes. -/
def byteSize (value : Json) : Nat := value.compact.utf8ByteSize

end FormEngine.Json
