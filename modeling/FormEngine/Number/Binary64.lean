/-!
Finite magnitudes of the 64-bit binary floating format, in exact arithmetic: a magnitude is a
significand times a power of two, and every operation rounds its exact result once, to the nearest
magnitude and on a tie to the even significand. A result past the largest magnitude is `none`.
-/

namespace FormEngine.Number

structure Binary64 where
  significand : Nat
  exponent : Int
  deriving DecidableEq, Inhabited

namespace Binary64

def precision : Nat := 53
def leastExponent : Int := -1074
def greatestExponent : Int := 971

def zero : Binary64 := ⟨0, leastExponent⟩

/-- Normal magnitudes fill all the digits of the significand; the rest have the least exponent. -/
def Canonical (magnitude : Binary64) : Prop :=
  magnitude.significand < Nat.pow 2 precision ∧
  leastExponent ≤ magnitude.exponent ∧ magnitude.exponent ≤ greatestExponent ∧
  (magnitude.exponent = leastExponent ∨ Nat.pow 2 (precision - 1) ≤ magnitude.significand)

def isZero (magnitude : Binary64) : Bool := magnitude.significand == 0

/-- The magnitude as a fraction with a positive denominator. -/
def fraction (magnitude : Binary64) : Nat × Nat :=
  if 0 ≤ magnitude.exponent then (magnitude.significand * Nat.pow 2 magnitude.exponent.toNat, 1)
  else (magnitude.significand, Nat.pow 2 (-magnitude.exponent).toNat)

def isIntegral (magnitude : Binary64) : Bool :=
  magnitude.fraction.1 % magnitude.fraction.2 == 0

/-- The quotient rounded to a whole number, a half to the even neighbour. -/
def nearestQuotient (numerator denominator : Nat) : Nat :=
  let quotient := numerator / denominator
  let twice := 2 * (numerator % denominator)
  if twice < denominator then quotient
  else if denominator < twice then quotient + 1
  else quotient + quotient % 2

/-- The significand of `numerator / denominator` at a given exponent. -/
def significandAt (numerator denominator : Nat) (exponent : Int) : Nat :=
  if 0 ≤ exponent then nearestQuotient numerator (denominator * Nat.pow 2 exponent.toNat)
  else nearestQuotient (numerator * Nat.pow 2 (-exponent).toNat) denominator

/-- The exponent that leaves `precision` digits before the binary point, or the least one. -/
def exponentFor (numerator denominator : Nat) : Int :=
  let estimate : Int := (numerator.log2 : Int) - (denominator.log2 : Int) - (precision : Int)
  let full : Bool :=
    if 0 ≤ estimate + 1 then
      decide (denominator * Nat.pow 2 (estimate + 1).toNat * Nat.pow 2 (precision - 1) ≤ numerator)
    else
      decide (denominator * Nat.pow 2 (precision - 1) ≤ numerator * Nat.pow 2 (-(estimate + 1)).toNat)
  max leastExponent (if full then estimate + 1 else estimate)

def ofFraction? (numerator denominator : Nat) : Option Binary64 :=
  if numerator = 0 then some zero
  else
    let exponent := exponentFor numerator denominator
    let significand := significandAt numerator denominator exponent
    let rounded : Binary64 :=
      if significand = Nat.pow 2 precision then ⟨Nat.pow 2 (precision - 1), exponent + 1⟩
      else ⟨significand, exponent⟩
    if rounded.exponent ≤ greatestExponent then some rounded else none

def ofNat? (value : Nat) : Option Binary64 := ofFraction? value 1

def mul? (left right : Binary64) : Option Binary64 :=
  ofFraction? (left.fraction.1 * right.fraction.1) (left.fraction.2 * right.fraction.2)

def div? (left right : Binary64) : Option Binary64 :=
  ofFraction? (left.fraction.1 * right.fraction.2) (left.fraction.2 * right.fraction.1)

end FormEngine.Number.Binary64
