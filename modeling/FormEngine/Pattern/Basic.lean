import FormEngine.Pattern.CharClass

/-!
Patterns on text. A pattern is tried from every place of a text, so what matters is which spans of a
text it matches.

Patterns are built by `ofClass`, `times`, `concat` and `choice`, which bring them into a reduced
form: literals and sequences are joined, choices among characters become classes, and what all
choices begin with is taken out of them. The form does not change what is matched, but it tells how
large the program for a pattern is.
-/

namespace FormEngine

namespace Pattern

/-- What may hold at a place between two characters. -/
inductive Assertion where
  | textStart
  | textEnd
  | lineStart (carriageReturn : Bool)
  | lineEnd (carriageReturn : Bool)
  | wordBoundary (unicode : Bool)
  | notWordBoundary (unicode : Bool)
  | wordStart (unicode : Bool)
  | wordEnd (unicode : Bool)
  | wordStartHalf (unicode : Bool)
  | wordEndHalf (unicode : Bool)
  deriving DecidableEq

end Pattern

inductive Pattern where
  | empty
  | literal (text : List Char)
  | one (charClass : Pattern.CharClass)
  | assertion (condition : Pattern.Assertion)
  -- Without a greatest number the pattern may be repeated any number of times.
  | repeated (inner : Pattern) (least : Nat) (greatest : Option Nat) (lazy : Bool)
  -- Groups that are numbered or named carry different numbers.
  | capture (number : Nat) (inner : Pattern)
  | seq (parts : List Pattern)
  | alt (choices : List Pattern)

namespace Pattern

section Equality

mutual
def same : Pattern → Pattern → Bool
  | .empty, .empty => true
  | .literal left, .literal right => left == right
  | .one left, .one right => left == right
  | .assertion left, .assertion right => left == right
  | .repeated left least greatest lazy, .repeated right least' greatest' lazy' =>
      least == least' && greatest == greatest' && lazy == lazy' && same left right
  | .capture number left, .capture number' right => number == number' && same left right
  | .seq left, .seq right => sameAll left right
  | .alt left, .alt right => sameAll left right
  | _, _ => false

def sameAll : List Pattern → List Pattern → Bool
  | [], [] => true
  | left :: lefts, right :: rights => same left right && sameAll lefts rights
  | _, _ => false
end

end Equality

section Length

mutual
/-- No match is longer than the empty text. A class without characters has no match to tell. -/
def isWeightless : Pattern → Bool
  | .empty => true
  | .literal _ => false
  | .one _ => false
  | .assertion _ => true
  | .repeated inner _ greatest _ => greatest.isSome && inner.isWeightless
  | .capture _ inner => inner.isWeightless
  | .seq parts => allWeightless parts
  | .alt choices => allWeightless choices

def allWeightless : List Pattern → Bool
  | [] => true
  | first :: rest => first.isWeightless && allWeightless rest
end

mutual
/-- The length of the shortest match; none where a class without characters leaves it open. -/
def shortest? : Pattern → Option Nat
  | .empty => some 0
  | .literal text => some text.length
  | .one charClass => if charClass.isEmpty then none else some 1
  | .assertion _ => some 0
  | .repeated inner least _ _ => inner.shortest?.map fun length => length * least
  | .capture _ inner => inner.shortest?
  | .seq parts => shortestInAll parts
  | .alt choices => shortestInAny choices

def shortestInAll : List Pattern → Option Nat
  | [] => some 0
  | first :: rest =>
      match first.shortest?, shortestInAll rest with
      | some length, some more => some (length + more)
      | _, _ => none

def shortestInAny : List Pattern → Option Nat
  | [] => none
  | [only] => only.shortest?
  | first :: second :: rest =>
      match first.shortest?, shortestInAny (second :: rest) with
      | some length, some other => some (min length other)
      | _, _ => none
end

def needsText (pattern : Pattern) : Bool := pattern.shortest?.any fun length => 0 < length

end Length

section Reduction

/-- The pattern that matches nothing. -/
def never : Pattern := .one .none

def ofClass (charClass : CharClass) : Pattern :=
  match charClass.single? with
  | some code => .literal [Char.ofNat code]
  | none => .one charClass

/-- What matches the empty text only is tried once at most. -/
def times (inner : Pattern) (least : Nat) (greatest : Option Nat) (lazy : Bool) : Pattern :=
  let (least, greatest) : Nat × Option Nat :=
    if inner.isWeightless then (min least 1, some (min (greatest.getD 1) 1)) else (least, greatest)
  if least = 0 ∧ greatest = some 0 then .empty
  else if least = 1 ∧ greatest = some 1 then inner
  else .repeated inner least greatest lazy

def parts : Pattern → List Pattern
  | .empty => []
  | .seq parts => parts
  | other => [other]

/-- Adjacent literals become one. -/
def joinLiterals : List Pattern → List Pattern
  | [] => []
  | first :: rest =>
      match first, joinLiterals rest with
      | .literal left, .literal right :: more => .literal (left ++ right) :: more
      | first, rest => first :: rest

def concat (patterns : List Pattern) : Pattern :=
  match joinLiterals (patterns.flatMap parts) with
  | [] => .empty
  | [only] => only
  | several => .seq several

def choices : Pattern → List Pattern
  | .alt choices => choices
  | other => [other]

def singleChar? : Pattern → Option CharClass
  | .literal [char] => some (.code char.toNat)
  | _ => none

def class? : Pattern → Option CharClass
  | .one charClass => some charClass
  | _ => none

/-- The patterns that two sequences begin with alike. -/
def commonStart : List Pattern → List Pattern → List Pattern
  | left :: lefts, right :: rights =>
      if left.same right then left :: commonStart lefts rights else []
  | _, _ => []

def seqParts? : Pattern → Option (List Pattern)
  | .seq parts => some parts
  | _ => none

/-- The beginning that all of some sequences share. -/
def sharedStart : List (List Pattern) → List Pattern
  | [] => []
  | first :: rest => rest.foldl commonStart first

/-- A choice among sequences takes their shared beginning out; `fuel` bounds how often the
remainders are taken apart again. -/
def choiceOf (fuel : Nat) (patterns : List Pattern) : Pattern :=
  match patterns.flatMap choices with
  | [] => never
  | [only] => only
  | several =>
      match several.mapM singleChar? with
      | some codes => ofClass (.unions codes)
      | none =>
          match several.mapM class? with
          | some classes => ofClass (.unions classes)
          | none =>
              match fuel, several.mapM seqParts? with
              | fuel + 1, some sequences =>
                  let shared := sharedStart sequences
                  if shared.isEmpty then .alt several
                  else
                    let remainders := sequences.map fun parts => concat (parts.drop shared.length)
                    concat (shared ++ [choiceOf fuel remainders])
              | _, _ => .alt several

/-- A remainder is shorter than the sequence it is left of. -/
def choice (patterns : List Pattern) : Pattern :=
  let lengths := patterns.flatMap fun pattern =>
    pattern.choices.map fun choice => choice.parts.length
  choiceOf (lengths.foldl max 0) patterns

end Reduction

section Anchors

mutual
/-- Every match begins where the text does. -/
def startsAtStart : Pattern → Bool
  | .assertion .textStart => true
  | .repeated inner least _ _ => 0 < least && inner.startsAtStart
  | .capture _ inner => inner.startsAtStart
  | .seq parts => firstAtStart parts
  | .alt choices => allAtStart choices
  | _ => false

def firstAtStart : List Pattern → Bool
  | [] => false
  | first :: rest => first.startsAtStart || (first.isWeightless && firstAtStart rest)

def allAtStart : List Pattern → Bool
  | [] => true
  | first :: rest => first.startsAtStart && allAtStart rest
end

mutual
/-- Every match ends where the text does. -/
def endsAtEnd : Pattern → Bool
  | .assertion .textEnd => true
  | .repeated inner least _ _ => 0 < least && inner.endsAtEnd
  | .capture _ inner => inner.endsAtEnd
  | .seq parts => lastAtEnd parts
  | .alt choices => allAtEnd choices
  | _ => false

def lastAtEnd : List Pattern → Bool
  | [] => false
  | first :: rest => lastAtEnd rest || (allWeightless rest && first.endsAtEnd)

def allAtEnd : List Pattern → Bool
  | [] => true
  | first :: rest => first.endsAtEnd && allAtEnd rest
end

end Anchors

end Pattern

end FormEngine
