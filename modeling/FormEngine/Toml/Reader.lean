import FormEngine.Toml.Document
import FormEngine.Toml.Scalar

/-!
Reading TOML text as a tree of texts, whole numbers, flags, lists and tables, which is all that
settings are made of. Line breaks, comments and a last comma may stand inside lists and inline
tables alike.

A reading gives the value and the text after it, or nothing.
-/

namespace FormEngine.Toml

abbrev Reading (Value : Type) := Option (Value × List Char)

section Blanks

/-- Controls other than the tab have no place in comments and texts. -/
def isPlain (char : Char) : Bool :=
  char == '\t' || (0x20 ≤ char.toNat && char.toNat ≠ 0x7F)

def skipSpaces : List Char → List Char
  | [] => []
  | char :: rest => if char = ' ' ∨ char = '\t' then skipSpaces rest else char :: rest

/-- Spaces, line breaks and comments. -/
def skipVoid (inComment : Bool) : List Char → Option (List Char)
  | [] => some []
  | '\n' :: rest => skipVoid false rest
  | '\r' :: '\n' :: rest => skipVoid false rest
  | char :: rest =>
      if inComment then (if isPlain char then skipVoid true rest else none)
      else if char = '#' then skipVoid true rest
      else if char = ' ' ∨ char = '\t' then skipVoid false rest
      else some (char :: rest)

/-- Only spaces and a comment may follow on the same line. -/
def endsLine (input : List Char) : Bool :=
  match skipSpaces input with
  | [] => true
  | '\n' :: _ => true
  | '\r' :: '\n' :: _ => true
  | '#' :: _ => true
  | _ => false

end Blanks

section Texts

/-- A code point given by a number of hexadecimal digits. -/
def readCode : Nat → Nat → List Char → Reading Char
  | 0, code, rest => if code.isValidChar then some (Char.ofNat code, rest) else none
  | _ + 1, _, [] => none
  | count + 1, code, char :: rest =>
      match Text.hexValue? char with
      | some digit => readCode count (code * 16 + digit) rest
      | none => none

/-- Called after the backslash. -/
def readEscape : List Char → Reading Char
  | 'b' :: rest => some (Char.ofNat 8, rest)
  | 't' :: rest => some ('\t', rest)
  | 'n' :: rest => some ('\n', rest)
  | 'f' :: rest => some (Char.ofNat 12, rest)
  | 'r' :: rest => some ('\r', rest)
  | 'e' :: rest => some (Char.ofNat 27, rest)
  | '"' :: rest => some ('"', rest)
  | '\\' :: rest => some ('\\', rest)
  | 'x' :: rest => readCode 2 0 rest
  | 'u' :: rest => readCode 4 0 rest
  | 'U' :: rest => readCode 8 0 rest
  | _ => none

/-- Called after the opening quote; `taken` holds the characters so far, last first. -/
def readBasic (fuel : Nat) (taken : List Char) (input : List Char) : Reading String :=
  match fuel, input with
  | 0, _ => none
  | _ + 1, [] => none
  | fuel + 1, char :: rest =>
      if char = '"' then some (String.ofList taken.reverse, rest)
      else if char = '\\' then
        match readEscape rest with
        | some (char, rest) => readBasic fuel (char :: taken) rest
        | none => none
      else if isPlain char then readBasic fuel (char :: taken) rest
      else none

def readLiteral (taken : List Char) : List Char → Reading String
  | [] => none
  | char :: rest =>
      if char = '\'' then some (String.ofList taken.reverse, rest)
      else if isPlain char then readLiteral (char :: taken) rest
      else none

/-- A line break right after the opening quotes is not part of the text. -/
def dropFirstBreak : List Char → List Char
  | '\n' :: rest => rest
  | '\r' :: '\n' :: rest => rest
  | rest => rest

/-- A backslash at the end of a line takes with it all blanks up to the next text. -/
def skipBreaks (broken : Bool) : List Char → Option (List Char)
  | [] => if broken then some [] else none
  | '\n' :: rest => skipBreaks true rest
  | '\r' :: '\n' :: rest => skipBreaks true rest
  | char :: rest =>
      if char = ' ' ∨ char = '\t' then skipBreaks broken rest
      else if broken then some (char :: rest)
      else none

/-- The quotes that end a text of several lines: three of them, and up to two before that belong to
the text. The number of quotes that belong to it, with the rest. -/
def closing? (quote : Char) (input : List Char) : Option (Nat × List Char) :=
  let count := (input.takeWhile (· == quote)).length
  if count < 3 then none
  else some (min count 5 - 3, input.drop (min count 5))

/-- Called after the opening quotes. -/
def readLines (quote : Char) (escapes : Bool) (fuel : Nat) (taken : List Char)
    (input : List Char) : Reading String :=
  match fuel with
  | 0 => none
  | fuel + 1 =>
      match closing? quote input with
      | some (own, rest) =>
          some (String.ofList (List.replicate own quote ++ taken).reverse, rest)
      | none =>
          match input with
          | [] => none
          | '\n' :: rest => readLines quote escapes fuel ('\n' :: taken) rest
          | '\r' :: '\n' :: rest => readLines quote escapes fuel ('\n' :: '\r' :: taken) rest
          | char :: rest =>
              if escapes && char == '\\' then
                match skipBreaks false rest with
                | some rest => readLines quote escapes fuel taken rest
                | none =>
                    match readEscape rest with
                    | some (char, rest) => readLines quote escapes fuel (char :: taken) rest
                    | none => none
              else if isPlain char then readLines quote escapes fuel (char :: taken) rest
              else none

end Texts

section Keys

def isBare (char : Char) : Bool := char.isAlphanum || char == '_' || char == '-'

def readName (fuel : Nat) (input : List Char) : Reading String :=
  match input with
  | '"' :: rest => readBasic fuel [] rest
  | '\'' :: rest => readLiteral [] rest
  | rest =>
      let name := rest.takeWhile isBare
      if name.isEmpty then none else some (String.ofList name, rest.dropWhile isBare)

/-- Lists and tables may stand this deep inside one another, and as many tables on the way to a
name. -/
def maxNesting : Nat := 80

-- `way` holds the names so far, last first.
def readKey (fuel : Nat) (way : List String) (input : List Char) : Reading Key :=
  match fuel with
  | 0 => none
  | fuel + 1 =>
      match readName fuel input with
      | none => none
      | some (name, rest) =>
          match skipSpaces rest with
          | '.' :: rest => readKey fuel (name :: way) (skipSpaces rest)
          | rest => if way.length < maxNesting then some (⟨way.reverse, name⟩, rest) else none

end Keys

section Values

def tableOf (entries : List Entry) : Option Json :=
  (Table.addAll entries []).map fun table => .obj (membersOf table)

mutual
-- `room` is how many more brackets may open inside one another.
def readValue (fuel room : Nat) (input : List Char) : Reading Json :=
  match fuel with
  | 0 => none
  | fuel + 1 =>
      match input with
      | '"' :: '"' :: '"' :: rest =>
          (readLines '"' true fuel [] (dropFirstBreak rest)).map fun (text, rest) =>
            (.str text, rest)
      | '\'' :: '\'' :: '\'' :: rest =>
          (readLines '\'' false fuel [] (dropFirstBreak rest)).map
            fun (text, rest) => (.str text, rest)
      | '"' :: rest =>
          (readBasic fuel [] rest).map fun (text, rest) => (.str text, rest)
      | '\'' :: rest => (readLiteral [] rest).map fun (text, rest) => (.str text, rest)
      | '[' :: rest =>
          match room with
          | 0 => none
          | room + 1 => readItems fuel room [] rest
      | '\x7b' :: rest =>
          match room with
          | 0 => none
          | room + 1 => readEntries fuel room [] rest
      | rest => readScalar rest

/-- Called after the opening bracket or after a comma; `taken` holds the items, last first. -/
def readItems (fuel room : Nat) (taken : List Json) (input : List Char) : Reading Json :=
  match fuel with
  | 0 => none
  | fuel + 1 =>
      match skipVoid false input with
      | none => none
      | some (']' :: rest) => some (.arr taken.reverse, rest)
      | some rest =>
          match readValue fuel room rest with
          | none => none
          | some (item, rest) =>
              match skipVoid false rest with
              | some (',' :: rest) => readItems fuel room (item :: taken) rest
              | some (']' :: rest) => some (.arr (item :: taken).reverse, rest)
              | _ => none

/-- The entries of an inline table. -/
def readEntries (fuel room : Nat) (taken : List Entry) (input : List Char) : Reading Json :=
  match fuel with
  | 0 => none
  | fuel + 1 =>
      match skipVoid false input with
      | none => none
      | some ('\x7d' :: rest) => (tableOf taken.reverse).map fun table => (table, rest)
      | some rest =>
          match readEntry fuel true room rest with
          | none => none
          | some (entry, rest) =>
              match skipVoid false rest with
              | some (',' :: rest) => readEntries fuel room (entry :: taken) rest
              | some ('\x7d' :: rest) =>
                  (tableOf (entry :: taken).reverse).map fun table => (table, rest)
              | _ => none

/-- Within an inline table the sign after the key and the value may stand on other lines. -/
def readEntry (fuel : Nat) (inline : Bool) (room : Nat) (input : List Char) : Reading Entry :=
  match fuel with
  | 0 => none
  | fuel + 1 =>
      let skipBlanks (input : List Char) : Option (List Char) :=
        if inline then skipVoid false input else some (skipSpaces input)
      match readKey fuel [] input with
      | none => none
      | some (key, rest) =>
          match skipBlanks rest with
          | some ('=' :: rest) =>
              match skipBlanks rest with
              | some rest =>
                  match readValue fuel room rest with
                  | some (value, rest) => some (⟨key, value⟩, rest)
                  | none => none
              | none => none
          | _ => none
end

end Values

section Sections

/-- Called after the opening brackets of a heading. -/
def readHeading (fuel : Nat) (input : List Char) : Reading Key :=
  readKey fuel [] (skipSpaces input)

-- `entries` holds those of the section so far and `sections` the sections before it, last first.
def readSections (fuel : Nat) (heading : Heading) (entries : List Entry)
    (sections : List Section) (input : List Char) : Option (List Section) :=
  match fuel with
  | 0 => none
  | fuel + 1 =>
      let finished := ⟨heading, entries.reverse⟩ :: sections
      match skipVoid false input with
      | none => none
      | some [] => some finished.reverse
      | some ('[' :: '[' :: rest) =>
          match readHeading fuel rest with
          | some (key, ']' :: ']' :: rest) =>
              if endsLine rest then readSections fuel (.element key) [] finished rest else none
          | _ => none
      | some ('[' :: rest) =>
          match readHeading fuel rest with
          | some (key, ']' :: rest) =>
              if endsLine rest then readSections fuel (.table key) [] finished rest else none
          | _ => none
      | some rest =>
          match readEntry fuel false maxNesting rest with
          | some (entry, rest) =>
              if endsLine rest then readSections fuel heading (entry :: entries) sections rest
              else none
          | none => none

end Sections

/-- A mark of the byte order may stand in front of the text. -/
def withoutMark : List Char → List Char
  | '\uFEFF' :: rest => rest
  | rest => rest

def read? (text : String) : Option Json :=
  let input := withoutMark text.toList
  match readSections (3 * input.length + 3) .top [] [] input with
  | some sections => (Table.ofSections sections []).map fun table => .obj (membersOf table)
  | none => none

end FormEngine.Toml
