import StorageSurvey.Number.Rounding
import StorageSurvey.Time.Date

/-!
# Instants of universal time

An instant is a date and a time of day in UTC, to the nanosecond.  The second may be 60, for a
leap second.  `Instant.text` is the written form: the fraction has the fewest of 0, 3, 6 or 9
digits that lose nothing, and a year outside 0 to 9999 has a sign.
-/

namespace StorageSurvey.Time

/-- A time of day to the nanosecond. -/
structure TimeOfDay where
  hour : Nat
  minute : Nat
  second : Nat
  nanosecond : Nat
  hour_lt : hour < 24
  minute_lt : minute < 60
  second_le : second ≤ 60
  nanosecond_lt : nanosecond < 1000000000
  deriving DecidableEq

/-- A date and a time of day in UTC. -/
structure Instant where
  date : Date
  time : TimeOfDay
  deriving DecidableEq

namespace TimeOfDay

/-- The time of day that the clock shows `minutes` later, and the days that pass. -/
def addMinutes (time : TimeOfDay) (minutes : Int) : TimeOfDay × Int :=
  let total := ((time.hour * 60 + time.minute : Nat) : Int) + minutes
  let inDay := (total % 1440).toNat
  have inDay_lt : inDay < 1440 := by
    have := Int.emod_lt_of_pos total (by decide : (0 : Int) < 1440)
    omega
  (⟨inDay / 60, inDay % 60, time.second, time.nanosecond, by omega, by omega, time.second_le,
    time.nanosecond_lt⟩, total / 1440)

end TimeOfDay

namespace Instant

/-- The instant at which a clock that is `offset` minutes ahead of UTC shows `date` and `time`,
if the calendar reaches it. -/
def ofLocal? (date : Date) (time : TimeOfDay) (offset : Int) : Option Instant :=
  let (time, days) := time.addMinutes (-offset)
  let date :=
    if days < 0 then date.previous? else if 0 < days then date.next? else some date
  date.map (⟨·, time⟩)

/-- How the offset of UTC itself is written. -/
inductive UtcMark
  | letter
  | offset
  deriving DecidableEq

def UtcMark.text : UtcMark → List Char
  | .letter => ['Z']
  | .offset => "+00:00".toList

/-- A year of four digits; other years have a sign and at least four digits. -/
def yearText (year : Int) : List Char :=
  let digits := Number.paddedDigits 4 year.natAbs
  if year < 0 then '-' :: digits
  else if 9999 < year then '+' :: digits
  else digits

/-- The fraction of a second with the fewest of 0, 3, 6 or 9 digits. -/
def fractionText (nanosecond : Nat) : List Char :=
  if nanosecond = 0 then []
  else if nanosecond % 1000000 = 0 then '.' :: Number.paddedDigits 3 (nanosecond / 1000000)
  else if nanosecond % 1000 = 0 then '.' :: Number.paddedDigits 6 (nanosecond / 1000)
  else '.' :: Number.paddedDigits 9 nanosecond

/-- The written form of an instant. -/
def text (instant : Instant) (mark : UtcMark) : List Char :=
  let two := Number.paddedDigits 2
  yearText instant.date.year ++
    '-' :: two instant.date.month ++
    '-' :: two instant.date.day ++
    'T' :: two instant.time.hour ++
    ':' :: two instant.time.minute ++
    ':' :: two instant.time.second ++
    fractionText instant.time.nanosecond ++
    mark.text

end Instant

end StorageSurvey.Time
