import StorageSurvey.Number.Rounding

/-!
# Magnitudes of double precision

The finite magnitudes of the 64-bit binary format, as a significand of at most 53 bits times a
power of two.  Every operation is the exact result rounded to the nearest magnitude, halfway
cases going to the even significand; a result beyond the largest magnitude is `none`.
-/

namespace StorageSurvey.Number

/-- The magnitude `significand * 2 ^ exponent`. -/
structure Binary64 where
  significand : Nat
  exponent : Int
  deriving DecidableEq, Repr

namespace Binary64

/-- The unit of the smallest positive magnitude is `2 ^ minExponent`. -/
def minExponent : Int := -1074

/-- The unit of the largest magnitude is `2 ^ maxExponent`. -/
def maxExponent : Int := 971

def zero : Binary64 := ⟨0, minExponent⟩

/-- A magnitude as a fraction of naturals: its numerator. -/
def numerator (x : Binary64) : Nat :=
  x.significand * Nat.pow 2 x.exponent.toNat

/-- A magnitude as a fraction of naturals: its denominator, a power of two. -/
def denominator (x : Binary64) : Nat :=
  Nat.pow 2 (-x.exponent).toNat

/-- The power of two that is the unit in the last place of the magnitudes around `num / den`. -/
def unitExponent (num den : Nat) : Int :=
  let guess : Int := (num.log2 : Int) - den.log2 - 52
  let reached := num * Nat.pow 2 (-guess).toNat < Nat.pow 2 52 * (den * Nat.pow 2 guess.toNat)
  max minExponent (if reached then guess - 1 else guess)

/-- The magnitude nearest to `num / den`, if that is not beyond the largest. -/
def ofRatio? (num den : Nat) : Option Binary64 :=
  let exponent := unitExponent num den
  let significand :=
    roundDiv (num * Nat.pow 2 (-exponent).toNat) (den * Nat.pow 2 exponent.toNat)
  let rounded : Binary64 :=
    if significand = Nat.pow 2 53 then ⟨Nat.pow 2 52, exponent + 1⟩ else ⟨significand, exponent⟩
  if maxExponent < rounded.exponent then none else some rounded

def ofNat? (n : Nat) : Option Binary64 :=
  ofRatio? n 1

def mul? (x y : Binary64) : Option Binary64 :=
  ofRatio? (x.numerator * y.numerator) (x.denominator * y.denominator)

def div? (x y : Binary64) : Option Binary64 :=
  ofRatio? (x.numerator * y.denominator) (x.denominator * y.numerator)

/-- The magnitude nearest to `significand * 10 ^ exponent`. -/
def ofScientific? (significand : Nat) (exponent : Int) : Option Binary64 :=
  ofRatio? (significand * Nat.pow 10 exponent.toNat) (Nat.pow 10 (-exponent).toNat)

end Binary64

end StorageSurvey.Number
