import StorageSurvey.Number.Binary64

/-!
# The shortest decimal that reads back

Among the decimals that lie closer to a given magnitude than to any other, those with the fewest
digits are taken, and of these the nearest.  The search tries one digit, two digits, … seventeen
digits: on the grid of each count only the two neighbours of the value can be nearest.
-/

namespace StorageSurvey.Number

/-- The decimal `0.d₁d₂… * 10 ^ point`, with `digits` the digits `d₁d₂…`. -/
structure ShortDecimal where
  digits : List Char
  point : Int

namespace Binary64

/-- The least `k` with `num / den < 10 ^ k`, searched upwards from `from`. -/
private def magnitudeFrom (num den : Nat) (k : Int) : Nat → Int
  | 0 => k
  | steps + 1 =>
      if num * Nat.pow 10 (-k).toNat < den * Nat.pow 10 k.toNat then k
      else magnitudeFrom num den (k + 1) steps

/-- The number of digits before the point of a positive magnitude, negative for leading zeros. -/
def decimalMagnitude (x : Binary64) : Int :=
  let estimate := ((x.significand.log2 : Int) + x.exponent) * 30103 / 100000
  magnitudeFrom x.numerator x.denominator (estimate - 2) 6

/-- Whether the decimal `n * 10 ^ unit` rounds to `x`.  The lower neighbour of a power of two is
only half a unit away; the ends of the interval belong to it if the significand is even. -/
def roundsFrom (x : Binary64) (n : Nat) (unit : Int) : Bool :=
  let decimal := 4 * (n * Nat.pow 10 unit.toNat * Nat.pow 2 (-x.exponent).toNat)
  let scale := Nat.pow 10 (-unit).toNat * Nat.pow 2 x.exponent.toNat
  let belowIsNear := x.significand = Nat.pow 2 52 ∧ minExponent < x.exponent
  let lower := (4 * x.significand - if belowIsNear then 1 else 2) * scale
  let upper := (4 * x.significand + 2) * scale
  if x.significand % 2 = 0 then lower ≤ decimal ∧ decimal ≤ upper
  else lower < decimal ∧ decimal < upper

/-- The nearer neighbour of `x` on the grid of step `10 ^ unit`, of those that round to `x`. -/
def nearestOnGrid? (x : Binary64) (unit : Int) : Option Nat :=
  let num := x.numerator * Nat.pow 10 (-unit).toNat
  let den := x.denominator * Nat.pow 10 unit.toNat
  let below := num / den
  let candidates := if 2 * (num % den) < den ∨ (2 * (num % den) = den ∧ below % 2 = 0)
    then [below, below + 1] else [below + 1, below]
  candidates.find? fun n => roundsFrom x n unit

/-- The fewest digits that read back as `x`. -/
def shortest (x : Binary64) : ShortDecimal :=
  if x.significand = 0 then ⟨['0'], 1⟩ else
  let magnitude := decimalMagnitude x
  let units := (List.range 17).map fun n => magnitude - ((n + 1 : Nat) : Int)
  let found := units.findSome? fun unit => (nearestOnGrid? x unit).map fun n => (n, unit)
  let (n, unit) := found.getD (0, 0)
  let digits := Nat.toDigits 10 n
  ⟨dropTrailingZeros digits, digits.length + unit⟩

end Binary64

/-- A decimal without an exponent; an integral one has `.0` after it. -/
def ShortDecimal.positional (d : ShortDecimal) : List Char :=
  if d.point ≤ 0 then
    '0' :: '.' :: List.replicate (-d.point).toNat '0' ++ d.digits
  else
    let whole := d.digits.take d.point.toNat
    let fraction := d.digits.drop d.point.toNat
    whole ++ List.replicate (d.point.toNat - whole.length) '0' ++
      '.' :: (if fraction.isEmpty then ['0'] else fraction)

/-- A decimal with one digit before the point and a signed exponent. -/
def ShortDecimal.scientific (d : ShortDecimal) : List Char :=
  let exponent := d.point - 1
  let fraction := d.digits.drop 1
  d.digits.take 1 ++ (if fraction.isEmpty then [] else '.' :: fraction) ++
    'e' :: (if exponent < 0 then '-' else '+') :: Nat.toDigits 10 exponent.natAbs

end StorageSurvey.Number
