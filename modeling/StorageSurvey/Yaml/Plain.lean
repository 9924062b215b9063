import StorageSurvey.Number.Shortest

/-!
# What plain scalars stand for

A scalar without quotes may stand for null, a boolean, an integer or a number in double precision;
every other one is a text.  Digits that begin with a zero are a text, not a number.
-/

namespace StorageSurvey.Yaml

/-- A number in double precision. -/
inductive Float64
  | finite (negative : Bool) (magnitude : Number.Binary64)
  | infinite (negative : Bool)
  | notANumber
  deriving DecidableEq, Repr

/-- What a scalar stands for. -/
inductive Plain
  | null
  | boolean (value : Bool)
  | integer (value : Int)
  | float (value : Float64)
  | text
  deriving DecidableEq, Repr

def isNull (text : String) : Bool :=
  text == "~" || text == "null" || text == "Null" || text == "NULL"

def boolean? (text : String) : Option Bool :=
  if text = "true" ∨ text = "True" ∨ text = "TRUE" then some true
  else if text = "false" ∨ text = "False" ∨ text = "FALSE" then some false
  else none

/-! ## Integers -/

/-- The value of a digit, letters being digits from ten on. -/
def digitValue? (base : Nat) (c : Char) : Option Nat :=
  let value :=
    if c.isDigit then c.toNat - 48
    else if 'a' ≤ c ∧ c ≤ 'z' then c.toNat - 87
    else if 'A' ≤ c ∧ c ≤ 'Z' then c.toNat - 55
    else base
  if value < base then some value else none

/-- The number with these digits; there is at least one. -/
def digits? (base : Nat) : List Char → Option Nat
  | [] => none
  | digits => digits.foldlM (fun n c => (digitValue? base c).map (n * base + ·)) 0

/-- The number with these digits, with its base before them if that is not ten. -/
def basedDigits? : List Char → Option Nat
  | '0' :: 'x' :: digits => digits? 16 digits
  | '0' :: 'o' :: digits => digits? 8 digits
  | '0' :: 'b' :: digits => digits? 2 digits
  | digits => digits? 10 digits

/-- Whether digits are a text for the zero that they begin with. -/
def hasLeadingZero (text : List Char) : Bool :=
  let digits := match text with
    | '+' :: rest | '-' :: rest => rest
    | _ => text
  match digits with
  | '0' :: rest => !rest.isEmpty && rest.all Char.isDigit
  | _ => false

/-- The natural number that a text without a minus stands for. -/
def natural? (text : List Char) : Option Nat :=
  let unsigned := match text with
    | '+' :: rest => rest
    | _ => text
  if hasLeadingZero text then none else basedDigits? unsigned

/-- The integer that a text with a minus stands for. -/
def negative? (text : List Char) : Option Int :=
  match text with
  | '-' :: rest => if hasLeadingZero text then none else (basedDigits? rest).map fun n => -(n : Int)
  | _ => none

/-- The integer that a text stands for, if it fits 128 bits with a sign or without. -/
def integer? (text : List Char) : Option Int :=
  match natural? text with
  | some n => if n < Nat.pow 2 128 then some n else none
  | none => match negative? text with
      | some n => if -Nat.pow 2 127 ≤ n then some n else none
      | none => none

/-! ## Numbers in double precision -/

/-- The digits of a decimal: those before and after the point, and the exponent. -/
structure Decimal where
  whole : List Char
  fraction : List Char
  exponent : Int

/-- A decimal without a sign.  Digits may be missing on one side of the point. -/
def decimal? (text : List Char) : Option Decimal :=
  let whole := text.takeWhile Char.isDigit
  let (fraction, rest) := match text.dropWhile Char.isDigit with
    | '.' :: rest => (rest.takeWhile Char.isDigit, rest.dropWhile Char.isDigit)
    | rest => ([], rest)
  if whole.isEmpty && fraction.isEmpty then none
  else match rest with
    | [] => some ⟨whole, fraction, 0⟩
    | e :: rest =>
        if e = 'e' ∨ e = 'E' then
          let (negative, digits) := match rest with
            | '-' :: digits => (true, digits)
            | '+' :: digits => (false, digits)
            | digits => (false, digits)
          (digits? 10 digits).map fun n =>
            ⟨whole, fraction, if negative then -(n : Int) else n⟩
        else none

/-- The largest exponents that can matter beside the digits of a decimal. -/
def Decimal.exponentBound (decimal : Decimal) : Nat :=
  decimal.whole.length + decimal.fraction.length + 400

/-- The magnitude nearest to a decimal, unless it is beyond double precision. -/
def Decimal.magnitude? (decimal : Decimal) : Option Number.Binary64 :=
  let significand := Nat.ofDigitChars 10 (decimal.whole ++ decimal.fraction) 0
  let bound := decimal.exponentBound
  if significand = 0 then some .zero
  else if bound < decimal.exponent then none
  else if decimal.exponent < -bound then some .zero
  else Number.Binary64.ofScientific? significand (decimal.exponent - decimal.fraction.length)

/-- The number in double precision that a text stands for. -/
def float? (text : List Char) : Option Float64 :=
  let (signed, negative, unsigned) := match text with
    | '+' :: rest => (false, false, rest)
    | '-' :: rest => (true, true, rest)
    | _ => (false, false, text)
  let name := String.ofList unsigned
  if name = ".inf" ∨ name = ".Inf" ∨ name = ".INF" then some (.infinite negative)
  else if unsigned = text ∧ (name = ".nan" ∨ name = ".NaN" ∨ name = ".NAN") then some .notANumber
  else ((decimal? unsigned).bind Decimal.magnitude?).map fun magnitude =>
    .finite signed magnitude

/-- The text for a number in double precision, which is never written with an exponent. -/
def Float64.text : Float64 → String
  | .finite negative magnitude =>
      let digits := magnitude.shortest.positional
      String.ofList (if negative then '-' :: digits else digits)
  | .infinite negative => if negative then "-inf" else "inf"
  | .notANumber => "NaN"

/-! ## Plain scalars -/

/-- What a plain scalar with this text stands for. -/
def plain (text : String) : Plain :=
  if text = "" ∨ isNull text then .null
  else match boolean? text with
    | some value => .boolean value
    | none => match integer? text.toList with
        | some value => .integer value
        | none =>
            if hasLeadingZero text.toList then .text
            else match float? text.toList with
              | some value => .float value
              | none => .text

end StorageSurvey.Yaml
