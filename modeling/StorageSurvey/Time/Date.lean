/-!
# Calendar dates

Dates of the proleptic Gregorian calendar between the first day of `Date.minYear` and the last
day of `Date.maxYear`.  A date is valid by construction; `Date.ofFields?` is the way in.
-/

namespace StorageSurvey.Time

def isLeapYear (year : Int) : Bool :=
  year % 4 == 0 && (year % 100 != 0 || year % 400 == 0)

/-- The number of days of a month; a number that is no month has none. -/
def daysInMonth (year : Int) (month : Nat) : Nat :=
  match month with
  | 2 => if isLeapYear year then 29 else 28
  | 4 | 6 | 9 | 11 => 30
  | 1 | 3 | 5 | 7 | 8 | 10 | 12 => 31
  | _ => 0

namespace Date

def minYear : Int := -262143

def maxYear : Int := 262142

/-- Whether the fields name a day between the first and the last date. -/
def Valid (year : Int) (month day : Nat) : Prop :=
  minYear ≤ year ∧ year ≤ maxYear ∧ 1 ≤ day ∧ day ≤ daysInMonth year month

instance (year : Int) (month day : Nat) : Decidable (Valid year month day) :=
  inferInstanceAs (Decidable (_ ∧ _ ∧ _ ∧ _))

end Date

/-- A day of the calendar. -/
structure Date where
  year : Int
  month : Nat
  day : Nat
  valid : Date.Valid year month day
  deriving DecidableEq

namespace Date

/-- The date with these fields, if there is such a day. -/
def ofFields? (year : Int) (month day : Nat) : Option Date :=
  if valid : Valid year month day then some ⟨year, month, day, valid⟩ else none

/-- The day after `date`, unless `date` is the last. -/
def next? (date : Date) : Option Date :=
  ofFields? date.year date.month (date.day + 1)
    <|> ofFields? date.year (date.month + 1) 1
    <|> ofFields? (date.year + 1) 1 1

/-- The day before `date`, unless `date` is the first. -/
def previous? (date : Date) : Option Date :=
  ofFields? date.year date.month (date.day - 1)
    <|> ofFields? date.year (date.month - 1) (daysInMonth date.year (date.month - 1))
    <|> ofFields? (date.year - 1) 12 31

end Date

end StorageSurvey.Time
