import FormEngine.Pattern.Unicode.Folding

/-!
Classes of characters as spans of code points. The spans of a class ascend and stay apart: between
two of them at least one code point is missing. So a class has one form only, and two descriptions
of the same characters give the same class.
-/

namespace FormEngine.Pattern

/-- The code points from `first` to `last`. -/
structure CodeSpan where
  first : Nat
  last : Nat
  deriving DecidableEq

def CodeSpan.contains (span : CodeSpan) (code : Nat) : Bool :=
  span.first ≤ code && code ≤ span.last

structure CharClass where
  spans : List CodeSpan
  deriving DecidableEq

section Rows

/-- Every `step`-th code point from `first` to `last`. -/
structure CodeRange where
  first : Nat
  last : Nat
  step : Nat

def CodeRange.spans (range : CodeRange) : List CodeSpan :=
  if range.step = 1 then [⟨range.first, range.last⟩]
  else
    (List.range ((range.last - range.first) / range.step + 1)).map fun index =>
      ⟨range.first + index * range.step, range.first + index * range.step⟩

def hexDigitValue (char : Char) : Nat :=
  if char ≤ '9' then char.toNat - 48 else char.toNat - 55

/-- The leading hexadecimal digits of a text, and the rest. -/
def readCode (value : Nat) : List Char → Nat × List Char
  | [] => (value, [])
  | char :: rest =>
      if ('0' ≤ char && char ≤ '9') || ('A' ≤ char && char ≤ 'F') then
        readCode (value * 16 + hexDigitValue char) rest
      else (value, char :: rest)

/-- Reads `first`, `first-last` or `first-last/step`, and gives what follows it. -/
def readRange (text : List Char) : CodeRange × List Char :=
  let (first, rest) := readCode 0 text
  match rest with
  | '-' :: rest =>
      let (last, rest) := readCode 0 rest
      match rest with
      | '/' :: rest =>
          let (step, rest) := readCode 0 rest
          (⟨first, last, step⟩, rest)
      | rest => (⟨first, last, 1⟩, rest)
  | rest => (⟨first, first, 1⟩, rest)

def words (row : String) : List (List Char) :=
  row.toList.splitOnP fun char => char == ' '

def readRows (rows : List String) : List CodeSpan :=
  rows.flatMap fun row => (words row).flatMap fun word => (readRange word).1.spans

end Rows

namespace CharClass

def greatestCode : Nat := 0x10FFFF

section Building

def none : CharClass := ⟨[]⟩

def span (first last : Nat) : CharClass := ⟨[⟨first, last⟩]⟩

def code (value : Nat) : CharClass := span value value

/-- Joins spans that overlap or touch; the spans are in the order of their first code points. -/
def joinSpans (current : CodeSpan) : List CodeSpan → List CodeSpan
  | [] => [current]
  | next :: rest =>
      if next.first ≤ current.last + 1 then
        joinSpans ⟨current.first, max current.last next.last⟩ rest
      else current :: joinSpans next rest

def ofSpans (spans : List CodeSpan) : CharClass :=
  match spans.mergeSort fun left right => left.first ≤ right.first with
  | [] => none
  | first :: rest => ⟨joinSpans first rest⟩

def ofPairs (pairs : List (Nat × Nat)) : CharClass :=
  ofSpans (pairs.map fun pair => ⟨pair.1, pair.2⟩)

def ofRows (rows : List String) : CharClass := ofSpans (readRows rows)

end Building

section Operations

def union (left right : CharClass) : CharClass := ofSpans (left.spans ++ right.spans)

def unions (classes : List CharClass) : CharClass :=
  ofSpans (classes.flatMap CharClass.spans)

/-- The code of the next character; surrogates are none. -/
def codeAfter (code : Nat) : Nat := if code = 0xD7FF then 0xE000 else code + 1

def codeBefore (code : Nat) : Nat := if code = 0xE000 then 0xD7FF else code - 1

/-- What lies before each span, from the code after the last one, and what lies after all. Between
spans that only the surrogates keep apart there is no character, and the first code of the gap
comes after its last. -/
def gapsFrom (start : Nat) : List CodeSpan → List CodeSpan
  | [] => if start ≤ greatestCode then [⟨start, greatestCode⟩] else []
  | next :: rest => ⟨start, codeBefore next.first⟩ :: gapsFrom (codeAfter next.last) rest

def gaps (spans : List CodeSpan) : List CodeSpan :=
  match spans with
  | [] => [⟨0, greatestCode⟩]
  | first :: rest =>
      if first.first = 0 then gapsFrom (codeAfter first.last) rest else gapsFrom 0 spans

/-- The characters outside a class. A gap without characters is read from its other end: the two
characters around the surrogates are then taken for outside. -/
def complement (charClass : CharClass) : CharClass :=
  ofSpans ((gaps charClass.spans).map fun gap =>
    ⟨min gap.first gap.last, max gap.first gap.last⟩)

def overlap? (left right : CodeSpan) : Option CodeSpan :=
  let first := max left.first right.first
  let last := min left.last right.last
  if first ≤ last then some ⟨first, last⟩ else Option.none

/-- What some spans and a class have in common. -/
def overlaps (spans : List CodeSpan) (charClass : CharClass) : CharClass :=
  ofSpans (spans.flatMap fun span => charClass.spans.filterMap (overlap? span))

def inter (left right : CharClass) : CharClass := overlaps left.spans right

def diff (left right : CharClass) : CharClass := overlaps (gaps right.spans) left

def symmDiff (left right : CharClass) : CharClass := (left.union right).diff (left.inter right)

end Operations

section Queries

def containsCode (charClass : CharClass) (code : Nat) : Bool :=
  charClass.spans.any fun span => span.contains code

def contains (charClass : CharClass) (char : Char) : Bool := charClass.containsCode char.toNat

def isEmpty (charClass : CharClass) : Bool := charClass.spans.isEmpty

def isAscii (charClass : CharClass) : Bool := charClass.spans.all fun span => span.last < 128

/-- The code point of a class that has no other. -/
def single? (charClass : CharClass) : Option Nat :=
  match charClass.spans with
  | [span] => if span.first = span.last then some span.first else Option.none
  | _ => Option.none

end Queries

end CharClass

section Folding

structure FoldingPair where
  range : CodeRange
  distance : Nat

def readPair (word : List Char) : FoldingPair :=
  let (range, rest) := readRange word
  ⟨range, (readCode 0 (rest.drop 1)).1⟩

def foldingPairs : List FoldingPair :=
  Unicode.foldingPairRows.flatMap fun row => (words row).map readPair

def foldingGroups : List (List Nat) :=
  Unicode.foldingGroupRows.flatMap fun row =>
    (words row).map fun word =>
      (word.splitOnP fun char => char == '=').map fun code => (readCode 0 code).1

def CodeSpan.shift (distance : Nat) (span : CodeSpan) : CodeSpan :=
  ⟨span.first + distance, span.last + distance⟩

def CodeSpan.shiftBack (distance : Nat) (span : CodeSpan) : CodeSpan :=
  ⟨span.first - distance, span.last - distance⟩

/-- The partners of the members of a class. -/
def FoldingPair.partners (charClass : CharClass) (pair : FoldingPair) : List CodeSpan :=
  pair.range.spans.flatMap fun span =>
    let members (bounds : CodeSpan) := charClass.spans.filterMap (CharClass.overlap? bounds)
    (members span).map (CodeSpan.shift pair.distance) ++
      (members (span.shift pair.distance)).map (CodeSpan.shiftBack pair.distance)

def groupPartners (charClass : CharClass) (group : List Nat) : List CodeSpan :=
  if group.any charClass.containsCode then group.map fun code => ⟨code, code⟩ else []

/-- The characters of a class with all that are the same letter when case does not count. -/
def CharClass.folded (charClass : CharClass) : CharClass :=
  .ofSpans (charClass.spans ++ foldingPairs.flatMap (FoldingPair.partners charClass) ++
    foldingGroups.flatMap (groupPartners charClass))

/-- The same for the letters of ASCII alone. -/
def CharClass.foldedAscii (charClass : CharClass) : CharClass :=
  .ofSpans (charClass.spans ++
    FoldingPair.partners charClass ⟨⟨65, 90, 1⟩, 32⟩)

end Folding

end FormEngine.Pattern
