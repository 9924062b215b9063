import StorageSurvey.Document.Datum

/-!
# Writing JSON

A value is written on one line without blanks, or over several lines with two spaces of
indentation for each list or record around.  Quotes, backslashes and control characters in texts
are escaped, and nothing else is.
-/

namespace StorageSurvey.Json

open StorageSurvey.Document

/-- A hexadecimal digit, in lower case. -/
def hexDigit (n : Nat) : Char :=
  if n < 10 then Char.ofNat (48 + n) else Char.ofNat (87 + n)

/-- How a character is written in a text. -/
def textChar (c : Char) : List Char :=
  if c = '"' ∨ c = '\\' then ['\\', c]
  else if c = '\x08' then ['\\', 'b']
  else if c = '\x0c' then ['\\', 'f']
  else if c = '\n' then ['\\', 'n']
  else if c = '\r' then ['\\', 'r']
  else if c = '\t' then ['\\', 't']
  else if c.toNat < 0x20 then
    ['\\', 'u', '0', '0', hexDigit (c.toNat / 16), hexDigit (c.toNat % 16)]
  else [c]

/-- A text in quotes. -/
def quotedText (text : String) : List Char :=
  '"' :: text.toList.flatMap textChar ++ ['"']

/-! ## On one line -/

mutual

/-- A value on one line, without blanks. -/
def compact : Datum → List Char
  | .null => ['n', 'u', 'l', 'l']
  | .natural value => Nat.toDigits 10 value
  | .text value => quotedText value
  | .list [] => ['[', ']']
  | .list (item :: items) => '[' :: compact item ++ compactItems items ++ [']']
  | .record [] => ['\x7b', '\x7d']
  | .record ((name, value) :: fields) =>
      '\x7b' :: quotedText name ++ ':' :: compact value ++ compactFields fields ++ ['\x7d']

/-- The items after the first. -/
def compactItems : List Datum → List Char
  | [] => []
  | item :: items => ',' :: compact item ++ compactItems items

/-- The fields after the first. -/
def compactFields : List (String × Datum) → List Char
  | [] => []
  | (name, value) :: fields =>
      ',' :: quotedText name ++ ':' :: compact value ++ compactFields fields

end

/-! ## Over several lines -/

/-- A line break and the blanks at the start of the next line. -/
def newline (indent : Nat) : List Char :=
  '\n' :: List.replicate indent ' '

mutual

/-- A value over several lines, the first of which is indented by `indent` already. -/
def pretty (indent : Nat) : Datum → List Char
  | .null => ['n', 'u', 'l', 'l']
  | .natural value => Nat.toDigits 10 value
  | .text value => quotedText value
  | .list [] => ['[', ']']
  | .list (item :: items) =>
      '[' :: newline (indent + 2) ++ pretty (indent + 2) item ++
        prettyItems (indent + 2) items ++ newline indent ++ [']']
  | .record [] => ['\x7b', '\x7d']
  | .record ((name, value) :: fields) =>
      '\x7b' :: newline (indent + 2) ++ quotedText name ++ ':' :: ' ' ::
        pretty (indent + 2) value ++ prettyFields (indent + 2) fields ++ newline indent ++ ['\x7d']

/-- The items after the first. -/
def prettyItems (indent : Nat) : List Datum → List Char
  | [] => []
  | item :: items => ',' :: newline indent ++ pretty indent item ++ prettyItems indent items

/-- The fields after the first. -/
def prettyFields (indent : Nat) : List (String × Datum) → List Char
  | [] => []
  | (name, value) :: fields =>
      ',' :: newline indent ++ quotedText name ++ ':' :: ' ' :: pretty indent value ++
        prettyFields indent fields

end

end StorageSurvey.Json
