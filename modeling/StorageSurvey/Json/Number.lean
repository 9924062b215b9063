import StorageSurvey.Number.Shortest

/-!
# Numbers in JSON

A number is an integer if it is written without a fraction and an exponent and fits 64 bits, with
or without a sign; minus zero is none.  Every other number is read in double precision, in a way
that is not exact: the digits are collected in a word of 64 bits, those that no longer fit are
dropped, and the result is scaled by powers of ten, each step being rounded.
-/

namespace StorageSurvey.Json

/-- A number as it is written. -/
structure NumberLiteral where
  negative : Bool
  /-- The digits before the point. -/
  whole : List Char
  /-- The digits after the point; empty if there is no point. -/
  fraction : List Char
  /-- The sign and the digits of the exponent, if there is one. -/
  exponent : Option (Bool × List Char)
  deriving DecidableEq, Repr

/-- What a number stands for; a magnitude beyond double precision is missing. -/
inductive NumberValue
  | integer (value : Int)
  | float (negative : Bool) (magnitude : Option Number.Binary64)
  deriving DecidableEq, Repr

/-- Digits collected into a word, with a power of ten to multiply it by. -/
structure Significand where
  word : Nat
  exponent : Int
  /-- Whether a digit did not fit; from then on digits are dropped. -/
  full : Bool

namespace Significand

/-- Takes one more digit into the word if it fits. -/
private def push? (s : Significand) (digit : Char) : Option Nat :=
  let word := s.word * 10 + (digit.toNat - 48)
  if ¬ s.full ∧ word < UInt64.size then some word else none

/-- Takes a digit that stands before the point. -/
def pushWhole (s : Significand) (digit : Char) : Significand :=
  match s.push? digit with
  | some word => { s with word }
  | none => { s with exponent := s.exponent + 1, full := true }

/-- As long as the word has room, a digit before the point is appended to it. -/
theorem pushWhole_of_lt {word : Nat} {digit : Char}
    (h : word * 10 + (digit.toNat - 48) < UInt64.size) :
    pushWhole ⟨word, 0, false⟩ digit = ⟨word * 10 + (digit.toNat - 48), 0, false⟩ := by
  have hpush : push? ⟨word, 0, false⟩ digit = some (word * 10 + (digit.toNat - 48)) :=
    if_pos ⟨Bool.false_ne_true, h⟩
  rw [pushWhole, hpush]

/-- A digit that has no room is dropped, and so are all digits after it. -/
theorem full_pushWhole {s : Significand} {digit : Char}
    (h : s.full = true ∨ UInt64.size ≤ s.word * 10 + (digit.toNat - 48)) :
    (s.pushWhole digit).full = true := by
  have hpush : s.push? digit = none := by
    refine if_neg fun hroom => ?_
    rcases h with hfull | hword
    · exact hroom.1 hfull
    · exact Nat.not_lt.mpr hword hroom.2
  rw [pushWhole, hpush]

/-- Takes a digit that stands after the point. -/
def pushFraction (s : Significand) (digit : Char) : Significand :=
  match s.push? digit with
  | some word => { s with word, exponent := s.exponent - 1 }
  | none => { s with full := true }

end Significand

namespace NumberLiteral

/-- The digits before the point, collected. -/
def wholePart (n : NumberLiteral) : Significand :=
  n.whole.foldl Significand.pushWhole ⟨0, 0, false⟩

/-- All digits, collected; the first digit after the point is tried again. -/
def significand (n : NumberLiteral) : Significand :=
  n.fraction.foldl Significand.pushFraction { n.wholePart with full := false }

/-- The largest exponent that is taken at its value. -/
def maxExponent : Nat := Nat.pow 2 31 - 1

/-- Divides by `10 ^ 308` as long as the exponent is below `-308`. -/
private def scaleDown (x : Number.Binary64) (exponent : Int) :
    Nat → Option Number.Binary64
  | 0 => some x
  | steps + 1 =>
      if x.significand = 0 then some x
      else if -308 ≤ exponent then do
        x.div? (← Number.Binary64.ofScientific? 1 (-exponent))
      else do
        scaleDown (← x.div? (← Number.Binary64.ofScientific? 1 308)) (exponent + 308) steps

/-- The magnitude `word * 10 ^ exponent`, each step being rounded. -/
def scale (word : Nat) (exponent : Int) : Option Number.Binary64 := do
  let x ← Number.Binary64.ofNat? word
  if exponent < 0 then scaleDown x exponent 8
  else if exponent ≤ 308 then x.mul? (← Number.Binary64.ofScientific? 1 exponent)
  else if word = 0 then some x
  else none

/-- The magnitude of a number that is no integer. -/
def magnitude (n : NumberLiteral) : Option Number.Binary64 :=
  let s := n.significand
  match n.exponent with
  | none => scale s.word s.exponent
  | some (negative, digits) =>
      let written := Nat.ofDigitChars 10 digits 0
      if maxExponent < written then
        if s.word = 0 ∨ negative then some Number.Binary64.zero else none
      else if negative then scale s.word (s.exponent - written)
      else scale s.word (s.exponent + written)

/-- What a number stands for. -/
def value (n : NumberLiteral) : NumberValue :=
  if n.fraction.isEmpty ∧ n.exponent.isNone ∧ ¬ n.wholePart.full then
    let word := n.wholePart.word
    if ¬ n.negative then .integer word
    else if 0 < word ∧ word ≤ Nat.pow 2 63 then .integer (-word)
    else .float true (Number.Binary64.ofNat? word)
  else .float n.negative n.magnitude

end NumberLiteral

/-- The text for a number in double precision: positional unless its exponent is below -5 or above
15.  An integral one has `.0` after it. -/
def floatText (negative : Bool) (magnitude : Number.Binary64) : String :=
  let decimal := magnitude.shortest
  let exponent := decimal.point - 1
  let digits :=
    if -5 ≤ exponent ∧ exponent ≤ 15 then decimal.positional else decimal.scientific
  String.ofList (if negative then '-' :: digits else digits)

end StorageSurvey.Json
