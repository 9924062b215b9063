import StorageSurvey.Text.PrintTable

/-!
# Texts in quotation marks

A text that a message mentions stands in double quotes.  Quotes, backslashes and the common
controls have escapes of their own; every other character that cannot be seen, or that would be
drawn on the one before it, is given by its code point in braces.
-/

namespace StorageSurvey.Text

/-- How a character is written between double quotes. -/
def quotedChar (c : Char) : List Char :=
  if c = '\x00' then ['\\', '0']
  else if c = '\t' then ['\\', 't']
  else if c = '\n' then ['\\', 'n']
  else if c = '\r' then ['\\', 'r']
  else if c = '"' ∨ c = '\\' then ['\\', c]
  else if unprintableRanges.contains c ∨ graphemeExtendRanges.contains c then
    ['\\', 'u', '\x7b'] ++ Nat.toDigits 16 c.toNat ++ ['\x7d']
  else [c]

/-- `text` in double quotes. -/
def quoted (text : String) : String :=
  String.ofList ('"' :: text.toList.flatMap quotedChar ++ ['"'])

end StorageSurvey.Text
