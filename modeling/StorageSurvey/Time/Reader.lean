import StorageSurvey.Text.Blank
import StorageSurvey.Time.Instant

/-!
# Reading time stamps

A time stamp is a date, a separator, a time of day and an offset from UTC, as in
`2024-03-01T10:00:00Z`.  The reader is lenient: blanks may stand before every field and before
the offset, fields may be shorter than two digits, a year may have a sign and then any number of
digits, and digits of the fraction past the ninth are dropped.
-/

namespace StorageSurvey.Time

/-- Why a text is no time stamp. -/
inductive TimeFault
  | ended
  | invalid
  | outOfRange
  | impossible
  | trailing
  deriving DecidableEq, Repr

def TimeFault.message : TimeFault → String
  | .ended => "premature end of input"
  | .invalid => "input contains invalid characters"
  | .outOfRange => "input is out of range"
  | .impossible => "no possible date and time matching input"
  | .trailing => "trailing input"

namespace Reader

/-- A step of the reader takes characters from the front of the text. -/
abbrev Step (α : Type) := StateT (List Char) (Except TimeFault) α

def fail {α : Type} (fault : TimeFault) : Step α :=
  throw fault

def skipBlanks : Step Unit :=
  modify Text.trimStart

/-- Takes the character `wanted`. -/
def literal (wanted : Char) : Step Unit := do
  match ← get with
  | [] => fail .ended
  | c :: rest => if c = wanted then set rest else fail .invalid

/-- The largest number that fits the accumulator for digits. -/
def maxAccumulated : Nat := Nat.pow 2 63 - 1

/-- Takes between one digit and `limit` of them, if there is a limit. -/
def digits (limit : Option Nat) : Step (List Char) := do
  let text ← get
  let window := match limit with
    | some n => text.take n
    | none => text
  let taken := window.takeWhile Char.isDigit
  match text, taken with
  | [], _ => fail .ended
  | _, [] => fail .invalid
  | _, _ =>
      if Nat.ofDigitChars 10 taken 0 ≤ maxAccumulated then
        set (text.drop taken.length)
        return taken
      else fail .outOfRange

def natural (limit : Option Nat) : Step Nat := do
  return Nat.ofDigitChars 10 (← digits limit) 0

/-- Takes a field of one or two digits after blanks, with a value from `low` to `high`. -/
def field (low high : Nat) : Step Nat := do
  skipBlanks
  let value ← natural (some 2)
  if low ≤ value ∧ value ≤ high then return value else fail .outOfRange

/-- Takes a year after blanks: up to four digits, or a sign and any number of digits. -/
def year : Step Int := do
  skipBlanks
  let value : Int ← match ← get with
    | '-' :: rest => do set rest; pure (-((← natural none : Nat) : Int))
    | '+' :: rest => do set rest; pure ((← natural none : Nat) : Int)
    | _ => pure ((← natural (some 4) : Nat) : Int)
  if -Nat.pow 2 31 ≤ value ∧ value < Nat.pow 2 31 then return value else fail .outOfRange

/-- Takes the separator between date and time. -/
def separator : Step Unit := do
  match ← get with
  | [] => fail .ended
  | c :: rest => if c = 'T' ∨ c = 't' ∨ Text.isBlank c then set rest else fail .invalid

/-- Takes a fraction of a second if one follows, as nanoseconds. -/
def fraction : Step Nat := do
  match ← get with
  | '.' :: rest => do
      set rest
      let taken ← digits (some 9)
      modify (List.dropWhile Char.isDigit)
      return Nat.ofDigitChars 10 taken 0 * Nat.pow 10 (9 - taken.length)
  | _ => return 0

/-- Takes exactly two digits; a text of fewer than two bytes has ended. -/
def twoDigits : Step (Nat × Nat) := do
  match ← get with
  | [] => fail .ended
  | [c] => if c.utf8Size < 2 then fail .ended else fail .invalid
  | c :: d :: rest =>
      if c.isDigit ∧ d.isDigit then
        set rest
        return (c.toNat - 48, d.toNat - 48)
      else fail .invalid

/-- Takes an offset of hours and minutes and gives it in minutes. -/
def signedOffset : Step Int := do
  let negative ← match ← get with
    | [] => fail .ended
    | '+' :: rest => do set rest; pure false
    | '-' :: rest => do set rest; pure true
    | '−' :: rest => do set rest; pure true
    | _ => fail .invalid
  let (h, h') ← twoDigits
  modify (List.dropWhile fun c => c == ':' || Text.isBlank c)
  let (m, m') ← twoDigits
  if 6 ≤ m then fail .outOfRange else
  let minutes : Int := ((h * 10 + h') * 60 + (m * 10 + m') : Nat)
  return if negative then -minutes else minutes

/-- Takes an offset from UTC in minutes: `UTC` in any case, `Z`, `z` or hours and minutes. -/
def offset : Step Int := do
  skipBlanks
  match ← get with
  | u :: t :: c :: rest =>
      if [u, t, c].map Char.toUpper = ['U', 'T', 'C'] then do set rest; return 0
      else if u = 'Z' ∨ u = 'z' then do set (t :: c :: rest); return 0
      else signedOffset
  | u :: rest => if u = 'Z' ∨ u = 'z' then do set rest; return 0 else signedOffset
  | [] => signedOffset

/-- The fields of a time stamp as they are written. -/
structure Fields where
  year : Int
  month : Nat
  day : Nat
  hour : Nat
  minute : Nat
  second : Nat
  nanosecond : Nat
  offset : Int

def fields : Step Fields := do
  let year ← year
  skipBlanks
  literal '-'
  let month ← field 1 12
  skipBlanks
  literal '-'
  let day ← field 1 31
  separator
  let hour ← field 0 23
  skipBlanks
  literal ':'
  let minute ← field 0 59
  skipBlanks
  literal ':'
  let second ← field 0 60
  let nanosecond ← fraction
  let offset ← offset
  skipBlanks
  match ← get with
  | [] => return { year, month, day, hour, minute, second, nanosecond, offset }
  | _ => fail .trailing

end Reader

/-- The time of day with these fields, if they are in range. -/
def TimeOfDay.ofFields? (hour minute second nanosecond : Nat) : Option TimeOfDay :=
  if h : hour < 24 ∧ minute < 60 ∧ second ≤ 60 ∧ nanosecond < 1000000000 then
    some ⟨hour, minute, second, nanosecond, h.1, h.2.1, h.2.2.1, h.2.2.2⟩
  else none

/-- The instant that written fields stand for. -/
def Reader.Fields.instant (f : Reader.Fields) : Except TimeFault Instant :=
  match Date.ofFields? f.year f.month f.day,
      TimeOfDay.ofFields? f.hour f.minute f.second f.nanosecond with
  | some date, some time =>
      if f.offset.natAbs < 24 * 60 then
        match Instant.ofLocal? date time f.offset with
        | some instant => .ok instant
        | none => .error .impossible
      else .error .outOfRange
  | _, _ => .error .outOfRange

/-- Reads a time stamp. -/
def Instant.read (text : List Char) : Except TimeFault Instant := do
  let (fields, _) ← Reader.fields.run text
  fields.instant

end StorageSurvey.Time
