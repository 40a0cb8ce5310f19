import FormEngine.Number.Binary64

/-!
The shortest decimal that reads back as a given magnitude, and its text.

A magnitude owns the interval of numbers that round to it. For one digit, two digits and so on the
two neighbours of the magnitude on that decimal grid are tried; the first grid with a neighbour in
the interval wins, and of two such neighbours the nearer one.
-/

namespace FormEngine.Number

structure Decimal where
  -- The value is `digits` times ten to the `exponent`.
  digits : Nat
  exponent : Int
  deriving DecidableEq

namespace Binary64

/-- The interval, its middle and its scale: all three numbers are over the same denominator. -/
structure Neighbourhood where
  low : Nat
  middle : Nat
  high : Nat
  denominator : Nat
  closed : Bool

def neighbourhood (magnitude : Binary64) : Neighbourhood :=
  let scale := if 0 ≤ magnitude.exponent then Nat.pow 2 magnitude.exponent.toNat else 1
  -- Below a power of two the magnitudes lie twice as close.
  let narrow := magnitude.significand == Nat.pow 2 (precision - 1) &&
    leastExponent < magnitude.exponent
  { low := (4 * magnitude.significand - (if narrow then 1 else 2)) * scale
    middle := 4 * magnitude.significand * scale
    high := (4 * magnitude.significand + 2) * scale
    denominator := 4 * (if 0 ≤ magnitude.exponent then 1 else Nat.pow 2 (-magnitude.exponent).toNat)
    closed := magnitude.significand % 2 == 0 }

namespace Neighbourhood

/-- Whether `digits * step / unit` lies in the interval, for a grid of step `step / unit`. -/
def holds (near : Neighbourhood) (digits step unit : Nat) : Bool :=
  let point := digits * step * near.denominator
  if near.closed then near.low * unit ≤ point && point ≤ near.high * unit
  else near.low * unit < point && point < near.high * unit

def onGrid? (near : Neighbourhood) (exponent : Int) : Option Decimal :=
  let step := if 0 ≤ exponent then Nat.pow 10 exponent.toNat else 1
  let unit := if 0 ≤ exponent then 1 else Nat.pow 10 (-exponent).toNat
  let floor := near.middle * unit / (step * near.denominator)
  let above := floor + 1
  let below := near.middle * unit - floor * step * near.denominator
  let beyond := above * step * near.denominator - near.middle * unit
  match near.holds floor step unit && 0 < floor, near.holds above step unit with
  | true, true =>
      if below < beyond || (below == beyond && floor % 2 == 0) then some ⟨floor, exponent⟩
      else some ⟨above, exponent⟩
  | true, false => some ⟨floor, exponent⟩
  | false, true => some ⟨above, exponent⟩
  | false, false => none

end Neighbourhood

/-- The number of digits before the decimal point; zero or less for a number below one tenth. -/
def pointAfter (numerator denominator : Nat) : Int :=
  if denominator ≤ numerator then ((Nat.toDigits 10 (numerator / denominator)).length : Int)
  else
    let inverse := Nat.toDigits 10 ((denominator - 1) / numerator)
    1 - (inverse.length : Int)

def searchShortest (near : Neighbourhood) (point : Int) : Nat → Nat → Decimal
  | 0, count => ⟨near.middle, (count : Int)⟩
  | fuel + 1, count =>
      match near.onGrid? (point - (count : Int)) with
      | some decimal => decimal
      | none => searchShortest near point fuel (count + 1)

/-- Seventeen digits always suffice. -/
def shortest (magnitude : Binary64) : Decimal :=
  if magnitude.isZero then ⟨0, 0⟩
  else
    let near := magnitude.neighbourhood
    searchShortest near (pointAfter near.middle near.denominator) 18 1

end Binary64

namespace Decimal

/-- A neighbour above may be a power of ten; its final zeros carry nothing. -/
def stripZeros : Nat → Decimal → Decimal
  | 0, decimal => decimal
  | fuel + 1, decimal =>
      if decimal.digits ≠ 0 ∧ decimal.digits % 10 = 0 then
        stripZeros fuel ⟨decimal.digits / 10, decimal.exponent + 1⟩
      else decimal

/-- Positional while the decimal point stands at -4 to 16, with at least one digit after it;
otherwise one digit, a fraction if there is one, and a signed exponent. -/
def text (decimal : Decimal) : List Char :=
  let decimal := decimal.stripZeros 20
  let digits := Nat.toDigits 10 decimal.digits
  let count : Int := digits.length
  let point := count + decimal.exponent
  if decimal.digits = 0 then ['0', '.', '0']
  else if 0 ≤ decimal.exponent ∧ point ≤ 16 then
    digits ++ List.replicate decimal.exponent.toNat '0' ++ ['.', '0']
  else if 0 < point ∧ point ≤ 16 then
    digits.take point.toNat ++ '.' :: digits.drop point.toNat
  else if -5 < point ∧ point ≤ 0 then
    '0' :: '.' :: (List.replicate (-point).toNat '0' ++ digits)
  else
    let sign := if 0 ≤ point - 1 then '+' else '-'
    let power := Nat.toDigits 10 (point - 1).natAbs
    let fraction := if digits.length = 1 then [] else '.' :: digits.drop 1
    digits.take 1 ++ fraction ++ 'e' :: sign :: power

end FormEngine.Number.Decimal
