import StorageSurvey.Number.Binary64

/-!
# Sizes for reading

A size in bytes is shown in the binary unit whose index is the integer part of
`ln size / 6.907755279`.  That divisor is a little under `ln 1000`, so the unit changes just above
the powers of a thousand while the value shown is in powers of 1024.  Sizes are taken in double
precision, and the decimals are rounded to nearest with halves going to even.
-/

namespace StorageSurvey.Inventory.ByteSize

/-- The smallest sizes shown in each unit from the second on. -/
def unitStarts : List (Nat × Char) :=
  [(1000001, 'M'), (1000000001, 'G'), (1000000000072, 'T'), (1000000000089311, 'P'),
    (1000000000107173312, 'E')]

/-- The unit for a size from 1024 bytes on: the exponent of 1024 and the letter of the unit. -/
def unit (size : Nat) : Nat × Char :=
  let passed := unitStarts.takeWhile fun start => decide (start.1 ≤ size)
  (passed.length + 1, (passed.getLast?.map (·.2)).getD 'k')

/-- The size nearest to `size` in double precision, over `divisor`, with `places` decimals. -/
private def scaled (places size divisor : Nat) : List Char :=
  let rounded := (Number.Binary64.ofNat? size).getD Number.Binary64.zero
  Number.fixedText places rounded.numerator (rounded.denominator * divisor)

/-- A size with one decimal in the unit for it; bytes stand alone below 1024. -/
def text (size : UInt64) : String :=
  if size < 1024 then String.ofList (Nat.toDigits 10 size.toNat) ++ " B"
  else
    let (power, letter) := unit size.toNat
    String.ofList (scaled 1 size.toNat (Nat.pow 1024 power) ++ [' ', letter, 'i', 'B'])

/-- A size in gibibytes with two decimals. -/
def gibText (size : UInt64) : String :=
  String.ofList (scaled 2 size.toNat (Nat.pow 1024 3))

end StorageSurvey.Inventory.ByteSize
