import FormEngine.Pattern.Basic
import FormEngine.Pattern.Property

/-!
Matching by sets of places. The places of a text of n characters are 0 to n, and a set of them is a
number with one bit for each. A pattern carries the places where a match may begin to those where it
may end, so a text is matched when carrying all its places leaves some. Work is bounded by the size
of the pattern and of the text, whatever way the pattern could be matched.
-/

namespace FormEngine.Pattern

section Assertions

def isWordChar (unicode : Bool) (char : Char) : Bool :=
  if unicode then wordChar.contains char
  else char == '_' || char.isAlphanum

def isWord (unicode : Bool) : Option Char → Bool
  | some char => isWordChar unicode char
  | none => false

/-- With the carriage return as a line end, one that a line feed follows ends no line by itself. -/
def Assertion.holds (condition : Assertion) (before after : Option Char) : Bool :=
  match condition with
  | .textStart => before.isNone
  | .textEnd => after.isNone
  | .lineStart false => before.isNone || before == some '\n'
  | .lineStart true =>
      before.isNone || before == some '\n' || (before == some '\r' && after != some '\n')
  | .lineEnd false => after.isNone || after == some '\n'
  | .lineEnd true =>
      after.isNone || after == some '\r' || (after == some '\n' && before != some '\r')
  | .wordBoundary unicode => isWord unicode before != isWord unicode after
  | .notWordBoundary unicode => isWord unicode before == isWord unicode after
  | .wordStart unicode => !isWord unicode before && isWord unicode after
  | .wordEnd unicode => isWord unicode before && !isWord unicode after
  | .wordStartHalf unicode => !isWord unicode before
  | .wordEndHalf unicode => !isWord unicode after

end Assertions

section Masks

/-- The places before characters of a class; the first character stands at place `index`. -/
def charMask (charClass : CharClass) (index : Nat) : List Char → Nat
  | [] => 0
  | char :: rest =>
      (if charClass.contains char then 1 <<< index else 0) ||| charMask charClass (index + 1) rest

def placeMask (condition : Assertion) (before : Option Char) (index : Nat) : List Char → Nat
  | [] => if condition.holds before none then 1 <<< index else 0
  | char :: rest =>
      (if condition.holds before (some char) then 1 <<< index else 0) |||
        placeMask condition (some char) (index + 1) rest

end Masks

/-- A pattern with its classes and assertions looked up in one text. -/
inductive Carrier where
  | stay
  | advance (mask : Nat)
  | keep (mask : Nat)
  | seq (first second : Carrier)
  | alt (left right : Carrier)
  | repeated (inner : Carrier) (least : Nat) (greatest : Option Nat)

def literalCarrier (text : List Char) : List Char → Carrier
  | [] => .stay
  | char :: rest =>
      .seq (.advance (charMask (.code char.toNat) 0 text)) (literalCarrier text rest)

mutual
def carrier (text : List Char) : Pattern → Carrier
  | .empty => .stay
  | .literal chars => literalCarrier text chars
  | .one charClass => .advance (charMask charClass 0 text)
  | .assertion condition => .keep (placeMask condition none 0 text)
  | .repeated inner least greatest _ => .repeated (carrier text inner) least greatest
  | .capture _ inner => carrier text inner
  | .seq parts => carrierOfAll text parts
  | .alt choices => carrierOfAny text choices

def carrierOfAll (text : List Char) : List Pattern → Carrier
  | [] => .stay
  | first :: rest => .seq (carrier text first) (carrierOfAll text rest)

def carrierOfAny (text : List Char) : List Pattern → Carrier
  | [] => .advance 0
  | first :: rest => .alt (carrier text first) (carrierOfAny text rest)
end

-- `count` rounds, fewer when a round changes nothing.
def rounds (step : Nat → Nat) : Nat → Nat → Nat
  | 0, places => places
  | count + 1, places =>
      let next := step places
      if next = places then places else rounds step count next

/-- The places reached in up to `count` rounds; only newly reached places are carried on. -/
def reachable (step : Nat → Nat) : Nat → Nat → Nat → Nat
  | 0, _, reached => reached
  | count + 1, fresh, reached =>
      let next := step fresh
      let all := reached ||| next
      if all = reached then reached else reachable step count (all ^^^ reached) all

/-- More rounds than the text has places bring nothing new. -/
def Carrier.carry (bound : Nat) : Carrier → Nat → Nat
  | .stay, places => places
  | .advance mask, places => (places &&& mask) <<< 1
  | .keep mask, places => places &&& mask
  | .seq first second, places => second.carry bound (first.carry bound places)
  | .alt left right, places => left.carry bound places ||| right.carry bound places
  | .repeated inner least greatest, places =>
      let first := rounds (inner.carry bound) (min least bound) places
      let more :=
        match greatest with
        | none => bound
        | some greatest => min (greatest - least) bound
      reachable (inner.carry bound) more first first

def matchesChars (pattern : Pattern) (text : List Char) : Bool :=
  let bound := text.length + 1
  (carrier text pattern).carry bound (1 <<< bound - 1) != 0

end FormEngine.Pattern
