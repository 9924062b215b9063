/-!
# Rounding a quotient

A quotient of naturals is rounded to the nearest natural; one that lies exactly halfway goes to
the even neighbour.  Fixed-point text is a rounded quotient with a point set into its digits.
-/

namespace StorageSurvey.Number

/-- The natural nearest to `num / den`, of two equally near ones the even one. -/
def roundDiv (num den : Nat) : Nat :=
  let quotient := num / den
  let rest := num % den
  if 2 * rest < den ∨ (2 * rest = den ∧ quotient % 2 = 0) then quotient else quotient + 1

/-- The digits of `n` with at least `width` of them, zeros being put in front. -/
def paddedDigits (width n : Nat) : List Char :=
  let digits := Nat.toDigits 10 n
  List.replicate (width - digits.length) '0' ++ digits

/-- The quotient `num / den` with exactly `places` digits after the point, `places` positive. -/
def fixedText (places num den : Nat) : List Char :=
  let unit := Nat.pow 10 places
  let scaled := roundDiv (num * unit) den
  Nat.toDigits 10 (scaled / unit) ++ '.' :: paddedDigits places (scaled % unit)

/-- `digits` without the zeros at its end. -/
def dropTrailingZeros (digits : List Char) : List Char :=
  (digits.reverse.dropWhile (· == '0')).reverse

end StorageSurvey.Number
