import FormEngine.Pattern.Basic
import FormEngine.Pattern.Property
import FormEngine.Text.Hex

/-!
Reading patterns. Inside a group flags may change how the rest of the group is read; they are given
back when it closes. A text that is not a pattern is refused as a whole, without a reason.

Only patterns that match whole characters are accepted: without the Unicode flag a class must stay
within ASCII.
-/

namespace FormEngine.Pattern

structure Flags where
  ignoreCase : Bool
  multiLine : Bool
  dotAll : Bool
  swapGreed : Bool
  carriageReturn : Bool
  unicode : Bool
  ignoreSpace : Bool

def Flags.standard : Flags := ⟨false, false, false, false, false, true, false⟩

section Blanks

def isSpace (char : Char) : Bool := whiteSpace.contains char

def dropComment : List Char → List Char
  | [] => []
  | char :: rest => if char = '\n' then char :: rest else dropComment rest

/-- White space and comments, up to the first character of the pattern. -/
def dropSpace (fuel : Nat) (input : List Char) : List Char :=
  match fuel, input with
  | 0, _ => input
  | _ + 1, [] => []
  | fuel + 1, char :: rest =>
      if isSpace char then dropSpace fuel rest
      else if char = '#' then dropSpace fuel (dropComment rest)
      else char :: rest

def skip (flags : Flags) (input : List Char) : List Char :=
  if flags.ignoreSpace then dropSpace (input.length + 1) input else input

end Blanks

section Escapes

def isMeta (char : Char) : Bool := "\\.+*?()|[]\x7b\x7d^$#&-~".toList.contains char

/-- Letters, digits and angle brackets are kept for meanings of their own. -/
def isEscapable (char : Char) : Bool :=
  char.toNat < 128 && !char.isAlphanum && char != '<' && char != '>'

def charOfCode? (code : Nat) : Option Char :=
  if code < 0xD800 ∨ (0xDFFF < code ∧ code ≤ 0x10FFFF) then some (Char.ofNat code) else none

/-- A character of a pattern, and whether it was written as one byte. -/
structure Literal where
  char : Char
  byte : Bool

def readHexDigits (flags : Flags) : Nat → Nat → List Char → Option (Nat × List Char)
  | 0, value, input => some (value, input)
  | count + 1, value, input =>
      match input with
      | [] => none
      | char :: rest =>
          match Text.hexValue? char with
          | none => none
          | some digit => readHexDigits flags count (value * 16 + digit) (skip flags rest)

/-- Called after the opening brace. -/
def readHexBraced (flags : Flags) (fuel : Nat) (digits : List Nat) (input : List Char) :
    Option (Nat × List Char) :=
  match fuel, skip flags input with
  | 0, _ => none
  | _ + 1, [] => none
  | fuel + 1, char :: rest =>
      if char = '\x7d' then
        if digits.isEmpty then none
        else some (digits.foldr (fun digit value => value * 16 + digit) 0, skip flags rest)
      else
        match Text.hexValue? char with
        | none => none
        | some digit => readHexBraced flags fuel (digit :: digits) rest

/-- Called after the letter; `count` digits unless there is a brace. -/
def readHex (flags : Flags) (count : Nat) (input : List Char) : Option (Literal × List Char) :=
  match skip flags input with
  | [] => none
  | '\x7b' :: rest =>
      match readHexBraced flags (rest.length + 1) [] rest with
      | some (code, rest) => (charOfCode? code).map fun char => (⟨char, false⟩, rest)
      | none => none
  | rest =>
      match readHexDigits flags count 0 rest with
      | some (code, rest) =>
          (charOfCode? code).map fun char => (⟨char, count == 2⟩, rest)
      | none => none

end Escapes

section Classes

def asciiClass? (name : String) : Option CharClass :=
  ([("alnum", CharClass.ofPairs [(48, 57), (65, 90), (97, 122)]),
    ("alpha", .ofPairs [(65, 90), (97, 122)]),
    ("ascii", .ofPairs [(0, 127)]),
    ("blank", .ofPairs [(9, 9), (32, 32)]),
    ("cntrl", .ofPairs [(0, 31), (127, 127)]),
    ("digit", .ofPairs [(48, 57)]),
    ("graph", .ofPairs [(33, 126)]),
    ("lower", .ofPairs [(97, 122)]),
    ("print", .ofPairs [(32, 126)]),
    ("punct", .ofPairs [(33, 47), (58, 64), (91, 96), (123, 126)]),
    ("space", .ofPairs [(9, 13), (32, 32)]),
    ("upper", .ofPairs [(65, 90)]),
    ("word", .ofPairs [(48, 57), (65, 90), (95, 95), (97, 122)]),
    ("xdigit", .ofPairs [(48, 57), (65, 70), (97, 102)])].find?
      fun entry => entry.1 == name).map Prod.snd

/-- The classes of digits, white space and word characters. -/
def shorthand (unicode : Bool) (letter : Char) : CharClass :=
  match letter, unicode with
  | 'd', true => decimalDigit
  | 's', true => whiteSpace
  | 'w', true => wordChar
  | 'd', false => .ofPairs [(48, 57)]
  | 's', false => .ofPairs [(9, 13), (32, 32)]
  | _, _ => .ofPairs [(48, 57), (65, 90), (95, 95), (97, 122)]

def foldIf (flags : Flags) (inner : CharClass) : CharClass :=
  if !flags.ignoreCase then inner
  else if flags.unicode then inner.folded
  else inner.foldedAscii

/-- Outside Unicode a complement would reach past ASCII. -/
def foldAndNegate (flags : Flags) (negated : Bool) (inner : CharClass) : Option CharClass :=
  if negated && !flags.unicode then none
  else if negated then some (foldIf flags inner).complement
  else some (foldIf flags inner)

def literalCode (flags : Flags) (literal : Literal) : Option Nat :=
  if flags.unicode || literal.char.toNat < 128 then some literal.char.toNat else none

def literalPattern (flags : Flags) (literal : Literal) : Option Pattern :=
  if flags.unicode || !literal.byte || literal.char.toNat < 128 then
    some (ofClass (foldIf flags (.code literal.char.toNat)))
  else none

/-- The name between braces, blanks within it skipped where they do not count. -/
def readBraced (flags : Flags) (fuel : Nat) (taken : List Char) (input : List Char) :
    Option (List Char × List Char) :=
  match fuel, skip flags input with
  | 0, _ => none
  | _ + 1, [] => none
  | fuel + 1, char :: rest =>
      if char = '\x7d' then some (taken.reverse, rest)
      else readBraced flags fuel (char :: taken) rest

/-- Splits at the first occurrence of a mark. -/
def splitAtMark (mark : List Char) : List Char → Option (List Char × List Char)
  | [] => none
  | char :: rest =>
      if mark.isPrefixOf (char :: rest) then some ([], (char :: rest).drop mark.length)
      else (splitAtMark mark rest).map fun parts => (char :: parts.1, parts.2)

/-- The class that a name in braces stands for. A value may be set off by a sign of inequality, but
it is the value that counts. -/
def braceClass? (name : List Char) : Option CharClass :=
  match splitAtMark ['!', '='] name with
  | some (name, value) => classValued? name value
  | none =>
      match (splitAtMark [':'] name).or (splitAtMark ['='] name) with
      | some (name, value) => classValued? name value
      | none => classNamed? name

/-- Called after the letter that opens a property class. -/
def readProperty (flags : Flags) (negated : Bool) (input : List Char) :
    Option (CharClass × List Char) :=
  if !flags.unicode then none
  else
    match skip flags input with
    | [] => none
    | '\x7b' :: rest =>
        match readBraced flags (rest.length + 1) [] rest with
        | none => none
        | some (name, rest) =>
            match braceClass? name with
            | none => none
            | some found =>
                (foldAndNegate flags negated found).map fun built => (built, rest)
    | '\\' :: _ => none
    | char :: rest =>
        match classNamed? [char] with
        | none => none
        | some found =>
            (foldAndNegate flags negated found).map fun built => (built, skip flags rest)

end Classes

section Atoms

/-- What stands for itself: one item of a pattern or of a class. -/
inductive Atom where
  | literal (literal : Literal)
  | charClass (charClass : CharClass)
  | assertion (condition : Assertion)

def isBoundaryNameChar (char : Char) : Bool := char.isAlpha || char == '-'

def takeBoundaryName (flags : Flags) (fuel : Nat) (taken : List Char) (input : List Char) :
    List Char × List Char :=
  match fuel, input with
  | 0, _ => (taken.reverse, input)
  | _ + 1, [] => (taken.reverse, [])
  | fuel + 1, char :: rest =>
      if isBoundaryNameChar char then takeBoundaryName flags fuel (char :: taken) (skip flags rest)
      else (taken.reverse, char :: rest)

/-- Called after a word boundary: a name in braces makes it one-sided. Braces that cannot hold a
name are left for a repetition. -/
def readBoundary (flags : Flags) (input : List Char) : Option (Assertion × List Char) :=
  match input with
  | '\x7b' :: rest =>
      match skip flags rest with
      | [] => none
      | first :: more =>
          if !isBoundaryNameChar first then some (.wordBoundary flags.unicode, input)
          else
            match takeBoundaryName flags (more.length + 2) [] (first :: more) with
            | (name, '\x7d' :: rest) =>
                if name = "start".toList then some (.wordStart flags.unicode, rest)
                else if name = "end".toList then some (.wordEnd flags.unicode, rest)
                else if name = "start-half".toList then some (.wordStartHalf flags.unicode, rest)
                else if name = "end-half".toList then some (.wordEndHalf flags.unicode, rest)
                else none
            | _ => none
  | rest => some (.wordBoundary flags.unicode, rest)

def readShorthand (flags : Flags) (letter : Char) (negated : Bool) (rest : List Char) :
    Option (Atom × List Char) :=
  if negated && !flags.unicode then none
  else if negated then some (.charClass (shorthand flags.unicode letter).complement, rest)
  else some (.charClass (shorthand flags.unicode letter), rest)

def plainLiteral (char : Char) (rest : List Char) : Option (Atom × List Char) :=
  some (.literal ⟨char, false⟩, rest)

/-- Called after the backslash. -/
def readEscape (flags : Flags) (input : List Char) : Option (Atom × List Char) :=
  match input with
  | [] => none
  | 'x' :: rest => (readHex flags 2 rest).map fun found => (.literal found.1, found.2)
  | 'u' :: rest => (readHex flags 4 rest).map fun found => (.literal found.1, found.2)
  | 'U' :: rest => (readHex flags 8 rest).map fun found => (.literal found.1, found.2)
  | 'p' :: rest => (readProperty flags false rest).map fun found => (.charClass found.1, found.2)
  | 'P' :: rest => (readProperty flags true rest).map fun found => (.charClass found.1, found.2)
  | 'd' :: rest => readShorthand flags 'd' false rest
  | 's' :: rest => readShorthand flags 's' false rest
  | 'w' :: rest => readShorthand flags 'w' false rest
  | 'D' :: rest => readShorthand flags 'd' true rest
  | 'S' :: rest => readShorthand flags 's' true rest
  | 'W' :: rest => readShorthand flags 'w' true rest
  | 'a' :: rest => plainLiteral (Char.ofNat 7) rest
  | 'f' :: rest => plainLiteral (Char.ofNat 12) rest
  | 't' :: rest => plainLiteral '\t' rest
  | 'n' :: rest => plainLiteral '\n' rest
  | 'r' :: rest => plainLiteral '\r' rest
  | 'v' :: rest => plainLiteral (Char.ofNat 11) rest
  | 'A' :: rest => some (.assertion .textStart, rest)
  | 'z' :: rest => some (.assertion .textEnd, rest)
  | 'b' :: rest => (readBoundary flags rest).map fun found => (.assertion found.1, found.2)
  | 'B' :: rest => some (.assertion (.notWordBoundary flags.unicode), rest)
  | '<' :: rest => some (.assertion (.wordStart flags.unicode), rest)
  | '>' :: rest => some (.assertion (.wordEnd flags.unicode), rest)
  | char :: rest => if isMeta char || isEscapable char then plainLiteral char rest else none

end Atoms

section Brackets

inductive SetOperation where
  | inter
  | diff
  | symmDiff

def SetOperation.apply : SetOperation → CharClass → CharClass → CharClass
  | .inter, left, right => left.inter right
  | .diff, left, right => left.diff right
  | .symmDiff, left, right => left.symmDiff right

/-- A class in brackets and how deep its parts nest. -/
structure Bracketed where
  charClass : CharClass
  depth : Nat

/-- The items read since the last operation. -/
structure Items where
  count : Nat
  charClass : CharClass
  depth : Nat

def Items.start : Items := ⟨0, .none, 0⟩

def Items.add (items : Items) (found : Bracketed) : Items :=
  ⟨items.count + 1, items.charClass.union found.charClass, max items.depth found.depth⟩

/-- Several items together are one level above the deepest of them. -/
def Items.close (items : Items) : Bracketed :=
  ⟨items.charClass, if 1 < items.count then items.depth + 1 else items.depth⟩

/-- An operation that waits for its right side. -/
structure PendingOperation where
  left : Bracketed
  operation : SetOperation

/-- Operations associate to the left; under case folding both operands are closed first. -/
def closeOperation (flags : Flags) (pending : Option PendingOperation) (items : Items) :
    Bracketed :=
  let right := items.close
  match pending with
  | none => right
  | some ⟨left, operation⟩ =>
      ⟨operation.apply (foldIf flags left.charClass) (foldIf flags right.charClass),
        max left.depth right.depth + 1⟩

/-- A named ASCII class within brackets, called after the bracket; none if there is no such name. -/
def readAsciiClass (flags : Flags) (input : List Char) :
    Option (Option CharClass × List Char) :=
  match input with
  | ':' :: rest =>
      let (negated, rest) : Bool × List Char :=
        match rest with
        | '^' :: rest => (true, rest)
        | rest => (false, rest)
      let name := rest.takeWhile fun char => char != ':'
      match rest.drop name.length with
      | ':' :: ']' :: rest =>
          match asciiClass? (String.ofList name) with
          | some found => some (foldAndNegate flags negated found, rest)
          | none => none
      | _ => none
  | _ => none

def readClassAtom (flags : Flags) (input : List Char) : Option (Atom × List Char) :=
  match input with
  | [] => none
  | '\\' :: rest => readEscape flags rest
  | char :: rest => plainLiteral char rest

def atomClass (flags : Flags) : Atom → Option CharClass
  | .literal written => (literalCode flags written).map CharClass.code
  | .charClass found => some found
  | .assertion _ => none

/-- The character that white space hides. One number sign is hidden with it, but the comment it
opens goes no further than the white space does. -/
def peekBlanks (hidden : Bool) : List Char → Option Char
  | [] => none
  | char :: rest =>
      if isSpace char then peekBlanks hidden rest
      else if char = '#' && !hidden then peekBlanks true rest
      else some char

def peek (flags : Flags) (input : List Char) : Option Char :=
  if flags.ignoreSpace then (peekBlanks false input).or input.head? else input.head?

/-- The character after a hyphen decides whether it makes a range. -/
def opensRange (flags : Flags) (input : List Char) : Bool :=
  match input with
  | '-' :: rest => peek flags rest != some ']' && peek flags rest != some '-'
  | _ => false

def readClassRange (flags : Flags) (input : List Char) : Option (CharClass × List Char) :=
  match readClassAtom flags input with
  | none => none
  | some (atom, rest) =>
      let rest := skip flags rest
      if rest.isEmpty then none
      else if !opensRange flags rest then (atomClass flags atom).map fun found => (found, rest)
      else
        match readClassAtom flags (skip flags (rest.drop 1)) with
        | some (.literal last, rest) =>
            match atom with
            | .literal first =>
                match literalCode flags first, literalCode flags last with
                | some first, some last =>
                    if first ≤ last then some (.span first last, rest) else none
                | _, _ => none
            | _ => none
        | _ => none

/-- The hyphens that may stand first in brackets. -/
def takeHyphens (flags : Flags) (fuel : Nat) (items : Items) (input : List Char) :
    Items × List Char :=
  match fuel, input with
  | fuel + 1, '-' :: rest => takeHyphens flags fuel (items.add ⟨.code 45, 0⟩) (skip flags rest)
  | _, rest => (items, rest)

/-- The sign of a bracketed class and the characters that stand for themselves at its start. -/
def readOpening (flags : Flags) (input : List Char) : Bool × Items × List Char :=
  let (negated, rest) : Bool × List Char :=
    match skip flags input with
    | '^' :: rest => (true, skip flags rest)
    | rest => (false, rest)
  let (hyphens, rest) := takeHyphens flags (rest.length + 1) .start rest
  if 0 < hyphens.count then (negated, hyphens, rest)
  else
    match rest with
    | ']' :: rest => (negated, Items.start.add ⟨.code 93, 0⟩, skip flags rest)
    | rest => (negated, .start, rest)

mutual
/-- Called after the opening bracket. -/
def readBrackets (flags : Flags) (fuel : Nat) (input : List Char) :
    Option (Bracketed × List Char) :=
  match fuel with
  | 0 => none
  | fuel + 1 =>
      let (negated, items, rest) := readOpening flags input
      match readUnion flags fuel none items rest with
      | none => none
      | some (found, rest) =>
          (foldAndNegate flags negated found.charClass).map fun built =>
            (⟨built, found.depth + 1⟩, rest)

/-- The items up to the closing bracket, with the operation that waits for its right side. -/
def readUnion (flags : Flags) (fuel : Nat) (pending : Option PendingOperation) (items : Items)
    (input : List Char) : Option (Bracketed × List Char) :=
  match fuel with
  | 0 => none
  | fuel + 1 =>
      let operate (operation : SetOperation) (rest : List Char) :=
        readUnion flags fuel (some ⟨closeOperation flags pending items, operation⟩) .start rest
      match skip flags input with
      | [] => none
      | ']' :: rest => some (closeOperation flags pending items, rest)
      | '[' :: rest =>
          match readAsciiClass flags rest with
          | some (some found, rest) => readUnion flags fuel pending (items.add ⟨found, 0⟩) rest
          | some (none, _) => none
          | none =>
              match readBrackets flags fuel rest with
              | none => none
              | some (inner, rest) => readUnion flags fuel pending (items.add inner) rest
      | '&' :: '&' :: rest => operate .inter rest
      | '-' :: '-' :: rest => operate .diff rest
      | '~' :: '~' :: rest => operate .symmDiff rest
      | rest =>
          match readClassRange flags rest with
          | none => none
          | some (found, rest) => readUnion flags fuel pending (items.add ⟨found, 0⟩) rest
end

end Brackets

section Groups

inductive FlagLetter where
  | ignoreCase
  | multiLine
  | dotAll
  | swapGreed
  | unicode
  | carriageReturn
  | ignoreSpace
  deriving DecidableEq

def flagLetter? : Char → Option FlagLetter
  | 'i' => some .ignoreCase
  | 'm' => some .multiLine
  | 's' => some .dotAll
  | 'U' => some .swapGreed
  | 'u' => some .unicode
  | 'R' => some .carriageReturn
  | 'x' => some .ignoreSpace
  | _ => none

def Flags.set (flags : Flags) (letter : FlagLetter) (value : Bool) : Flags :=
  match letter with
  | .ignoreCase => { flags with ignoreCase := value }
  | .multiLine => { flags with multiLine := value }
  | .dotAll => { flags with dotAll := value }
  | .swapGreed => { flags with swapGreed := value }
  | .unicode => { flags with unicode := value }
  | .carriageReturn => { flags with carriageReturn := value }
  | .ignoreSpace => { flags with ignoreSpace := value }

/-- Each letter once and at most one minus sign, which must not stand last. The text stops at the
colon or the closing bracket. -/
def readFlags (flags : Flags) (seen : List FlagLetter) (minus dangling : Bool) :
    List Char → Option (Flags × Bool × List Char)
  | [] => none
  | char :: rest =>
      if char = ':' ∨ char = ')' then
        if dangling then none else some (flags, seen.isEmpty && !minus, char :: rest)
      else if char = '-' then
        if minus then none else readFlags flags seen true true rest
      else
        match flagLetter? char with
        | none => none
        | some letter =>
            if seen.contains letter then none
            else readFlags (flags.set letter (!minus)) (letter :: seen) minus false rest

def isNameChar (first : Bool) (char : Char) : Bool :=
  if first then char == '_' || nameLetter.contains char
  else char == '_' || char == '.' || char == '[' || char == ']' || nameChar.contains char

/-- A group name up to its closing angle bracket. -/
def readName (taken : List Char) : List Char → Option (String × List Char)
  | [] => none
  | char :: rest =>
      if char = '>' then
        if taken.isEmpty then none else some (String.ofList taken.reverse, rest)
      else if isNameChar taken.isEmpty char then readName (char :: taken) rest
      else none

/-- How a group begins. -/
inductive GroupStart where
  | flags (flags : Flags)
  | plain (flags : Flags)
  | numbered
  | named (name : String)

/-- Called after the opening bracket. Look-around and other extensions are no flags. -/
def readGroupStart (flags : Flags) (input : List Char) : Option (GroupStart × List Char) :=
  match skip flags input with
  | '?' :: 'P' :: '<' :: rest => (readName [] rest).map fun found => (.named found.1, found.2)
  | '?' :: '<' :: rest => (readName [] rest).map fun found => (.named found.1, found.2)
  | '?' :: rest =>
      match readFlags flags [] false false rest with
      | some (_, true, ')' :: _) => none
      | some (changed, _, ')' :: rest) => some (.flags changed, rest)
      | some (changed, _, ':' :: rest) => some (.plain changed, rest)
      | _ => none
  | rest => some (.numbered, rest)

end Groups

section Counts

def takeDecimal (flags : Flags) (fuel : Nat) (taken : List Nat) (input : List Char) :
    List Nat × List Char :=
  match fuel, input with
  | fuel + 1, char :: rest =>
      if '0' ≤ char ∧ char ≤ '9' then
        takeDecimal flags fuel ((char.toNat - 48) :: taken) (skip flags rest)
      else (taken, char :: rest)
  | _, rest => (taken, rest)

def dropBlank (input : List Char) : List Char := input.dropWhile isSpace

/-- A number of at most 32 bits, with blanks around it. -/
def readDecimal (flags : Flags) (input : List Char) : Option Nat × List Char :=
  let start := dropBlank input
  let (digits, rest) := takeDecimal flags (start.length + 1) [] start
  let value := digits.foldr (fun digit value => value * 10 + digit) 0
  let rest := skip flags (dropBlank rest)
  if digits.isEmpty || Nat.pow 2 32 ≤ value then (none, rest) else (some value, rest)

/-- Called after the opening brace. -/
def readCounts (flags : Flags) (input : List Char) : Option (Nat × Option Nat × List Char) :=
  match skip flags input with
  | [] => none
  | start =>
      match readDecimal flags start with
      | (none, _) => none
      | (some least, rest) =>
          match rest with
          | '\x7d' :: rest => some (least, some least, rest)
          | ',' :: rest =>
              match skip flags rest with
              | '\x7d' :: rest => some (least, none, rest)
              | rest =>
                  match readDecimal flags rest with
                  | (some greatest, '\x7d' :: rest) =>
                      if least ≤ greatest then some (least, some greatest, rest) else none
                  | _ => none
          | _ => none

end Counts

section Sequences

/-- A part of a sequence; flags cannot be repeated. -/
inductive Item where
  | flags
  | part (pattern : Pattern) (depth : Nat)

def Item.pattern? : Item → Option Pattern
  | .flags => none
  | .part pattern _ => some pattern

def Item.depth : Item → Nat
  | .flags => 0
  | .part _ depth => depth

def depthOf (depths : List Nat) : Nat := depths.foldl max 0

/-- The items of one alternative, last first. -/
def closeSequence (items : List Item) : Pattern × Nat :=
  let depth := depthOf (items.map Item.depth)
  (concat (items.reverse.filterMap Item.pattern?), if 1 < items.length then depth + 1 else depth)

/-- The alternatives of a group, last first. -/
def closeAlternatives (alternatives : List (Pattern × Nat)) : Pattern × Nat :=
  let depth := depthOf (alternatives.map Prod.snd)
  (choice (alternatives.reverse.map Prod.fst),
    if 1 < alternatives.length then depth + 1 else depth)

def repeatLast (least : Nat) (greatest : Option Nat) (lazy : Bool) :
    List Item → Option (List Item)
  | .part inner depth :: items =>
      some (.part (inner.times least greatest lazy) (depth + 1) :: items)
  | _ => none

/-- A question mark after a repetition turns its preference. -/
def readLazy (flags : Flags) : List Char → Bool × List Char
  | '?' :: rest => (!flags.swapGreed, rest)
  | rest => (flags.swapGreed, rest)

def atomPattern (flags : Flags) : Atom → Option Pattern
  | .literal written => literalPattern flags written
  | .charClass found => some (ofClass found)
  | .assertion condition => some (.assertion condition)

def lineFeed : CharClass := .code 10
def lineEnds : CharClass := .ofPairs [(10, 10), (13, 13)]

def dotPattern (flags : Flags) : Option Pattern :=
  if !flags.unicode then none
  else if flags.dotAll then some (.one everyCode)
  else some (.one (if flags.carriageReturn then lineEnds else lineFeed).complement)

def startPattern (flags : Flags) : Pattern :=
  .assertion (if flags.multiLine then .lineStart flags.carriageReturn else .textStart)

def endPattern (flags : Flags) : Pattern :=
  .assertion (if flags.multiLine then .lineEnd flags.carriageReturn else .textEnd)

/-- What has been read of a group: its flags now, how many groups the whole pattern has so far and
their names, the finished alternatives and the items of the present one. -/
structure Progress where
  flags : Flags
  groups : Nat
  names : List String
  alternatives : List (Pattern × Nat)
  items : List Item

def Progress.add (progress : Progress) (item : Item) : Progress :=
  { progress with items := item :: progress.items }

def Progress.addPattern? (progress : Progress) (pattern : Option Pattern) : Option Progress :=
  pattern.map fun pattern => progress.add (.part pattern 0)

def Progress.close (progress : Progress) : Pattern × Nat :=
  closeAlternatives (closeSequence progress.items :: progress.alternatives)

/-- Reads up to the closing bracket of the group, or to the end where no group is open. -/
def readGroup (fuel : Nat) (inGroup : Bool) (progress : Progress) (input : List Char) :
    Option (Progress × List Char) :=
  match fuel with
  | 0 => none
  | fuel + 1 =>
      let flags := progress.flags
      let goOn (next : Option Progress) (rest : List Char) : Option (Progress × List Char) :=
        match next with
        | some next => readGroup fuel inGroup next rest
        | none => none
      let repeated (least : Nat) (greatest : Option Nat) (rest : List Char) :=
        let (lazy, rest) := readLazy flags rest
        goOn ((repeatLast least greatest lazy progress.items).map
          fun items => { progress with items }) rest
      match skip flags input with
      | [] => if inGroup then none else some (progress, [])
      | ')' :: rest => if inGroup then some (progress, rest) else none
      | '(' :: rest =>
          match readGroupStart flags rest with
          | none => none
          | some (start, rest) =>
              let inside (inner : Progress) (wrap : Pattern → Pattern) :=
                match readGroup fuel true inner rest with
                | none => none
                | some (found, rest) =>
                    let (pattern, depth) := found.close
                    goOn (some { (progress.add (.part (wrap pattern) (depth + 1))) with
                      groups := found.groups
                      names := found.names }) rest
              let number := progress.groups + 1
              match start with
              | .flags changed => goOn (some { (progress.add .flags) with flags := changed }) rest
              | .plain changed => inside ⟨changed, progress.groups, progress.names, [], []⟩ id
              | .numbered => inside ⟨flags, number, progress.names, [], []⟩ (.capture number)
              | .named name =>
                  if progress.names.contains name then none
                  else inside ⟨flags, number, name :: progress.names, [], []⟩ (.capture number)
      | '|' :: rest =>
          goOn (some { progress with
            alternatives := closeSequence progress.items :: progress.alternatives
            items := [] }) rest
      | '[' :: rest =>
          match readBrackets flags (2 * rest.length + 2) rest with
          | none => none
          | some (found, rest) =>
              goOn (some (progress.add (.part (ofClass found.charClass) found.depth))) rest
      | '?' :: rest => repeated 0 (some 1) rest
      | '*' :: rest => repeated 0 none rest
      | '+' :: rest => repeated 1 none rest
      | '\x7b' :: rest =>
          match readCounts flags rest with
          | none => none
          | some (least, greatest, rest) => repeated least greatest (skip flags rest)
      | '\\' :: rest =>
          match readEscape flags rest with
          | none => none
          | some (atom, rest) => goOn (progress.addPattern? (atomPattern flags atom)) rest
      | '.' :: rest => goOn (progress.addPattern? (dotPattern flags)) rest
      | '^' :: rest => goOn (progress.addPattern? (some (startPattern flags))) rest
      | '$' :: rest => goOn (progress.addPattern? (some (endPattern flags))) rest
      | char :: rest =>
          goOn (progress.addPattern? (literalPattern flags ⟨char, false⟩)) rest

end Sequences

/-- Groups, classes, repetitions, sequences and alternatives may nest this deep. -/
def nestLimit : Nat := 250

def read? (text : String) : Option Pattern :=
  let input := text.toList
  match readGroup (2 * input.length + 2) false ⟨Flags.standard, 0, [], [], []⟩ input with
  | none => none
  | some (progress, _) =>
      let (pattern, depth) := progress.close
      if depth ≤ nestLimit then some pattern else none

end FormEngine.Pattern
