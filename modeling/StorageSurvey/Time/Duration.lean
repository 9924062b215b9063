import StorageSurvey.Number.Rounding

/-!
# Spans of time

A duration is shown in the largest of the units s, ms, µs and ns that it fills at least once,
with the decimals that are left and no zeros at their end.
-/

namespace StorageSurvey.Time

/-- A span of time to the nanosecond. -/
structure Duration where
  nanoseconds : Nat
  deriving DecidableEq, Repr

namespace Duration

def ofSeconds (seconds : Nat) : Duration :=
  ⟨seconds * 1000000000⟩

def ofMilliseconds (milliseconds : Nat) : Duration :=
  ⟨milliseconds * 1000000⟩

/-- `nanoseconds` in a unit of `10 ^ places` of them. -/
private def inUnit (nanoseconds places : Nat) : List Char :=
  let unit := Nat.pow 10 places
  let decimals := Number.dropTrailingZeros (Number.paddedDigits places (nanoseconds % unit))
  Nat.toDigits 10 (nanoseconds / unit) ++
    if nanoseconds % unit = 0 then [] else '.' :: decimals

def text (d : Duration) : String :=
  if 1000000000 ≤ d.nanoseconds then String.ofList (inUnit d.nanoseconds 9) ++ "s"
  else if 1000000 ≤ d.nanoseconds then String.ofList (inUnit d.nanoseconds 6) ++ "ms"
  else if 1000 ≤ d.nanoseconds then String.ofList (inUnit d.nanoseconds 3) ++ "µs"
  else String.ofList (inUnit d.nanoseconds 0) ++ "ns"

end Duration

end StorageSurvey.Time
