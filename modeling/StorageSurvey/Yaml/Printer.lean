import StorageSurvey.Document.Datum
import StorageSurvey.Yaml.Presentation

/-!
# Writing YAML

Records and lists are written as blocks: the fields of a record are indented two columns more than
the record around it, the items of a list in a field are not.  Only lists and records without
contents are written in brackets.  A key that is long or does not fit on one line is written after
a question mark.
-/

namespace StorageSurvey.Yaml

open StorageSurvey.Document

def spaces (n : Nat) : List Char :=
  List.replicate n ' '

/-! ## Texts -/

/-- A hexadecimal digit, in upper case. -/
def upperHexDigit (n : Nat) : Char :=
  if n < 10 then Char.ofNat (48 + n) else Char.ofNat (55 + n)

/-- The last `width` hexadecimal digits of a number. -/
def hexDigits : Nat → Nat → List Char
  | 0, _ => []
  | width + 1, n => hexDigits width (n / 16) ++ [upperHexDigit (n % 16)]

/-- The letter after the backslash for the characters that have one. -/
def escapeLetter? (c : Char) : Option Char :=
  match c.toNat with
  | 0x00 => some '0'
  | 0x07 => some 'a'
  | 0x08 => some 'b'
  | 0x09 => some 't'
  | 0x0A => some 'n'
  | 0x0B => some 'v'
  | 0x0C => some 'f'
  | 0x0D => some 'r'
  | 0x1B => some 'e'
  | 0x22 => some '"'
  | 0x5C => some '\\'
  | 0x85 => some 'N'
  | 0x2028 => some 'L'
  | 0x2029 => some 'P'
  | _ => none

/-- How a character is written between double quotes. -/
def doubleQuotedChar (c : Char) : List Char :=
  if isPrintable c ∧ ¬ endsLine c ∧ c ≠ '"' ∧ c ≠ '\\' then [c]
  else match escapeLetter? c with
    | some letter => ['\\', letter]
    | none =>
        if c.toNat ≤ 0xFF then '\\' :: 'x' :: hexDigits 2 c.toNat
        else if c.toNat ≤ 0xFFFF then '\\' :: 'u' :: hexDigits 4 c.toNat
        else '\\' :: 'U' :: hexDigits 8 c.toNat

def doubleQuoted (text : List Char) : List Char :=
  '"' :: text.flatMap doubleQuotedChar ++ ['"']

/-- The text between single quotes: quotes are doubled, and a new line is indented. -/
def singleQuotedBody (indent : Nat) (atLineStart : Bool) : List Char → List Char
  | [] => if atLineStart then spaces indent else []
  | c :: rest =>
      if endsLine c then c :: singleQuotedBody indent true rest
      else
        (if atLineStart then spaces indent else []) ++ (if c = '\'' then ['\'', '\''] else [c]) ++
          singleQuotedBody indent false rest

def singleQuoted (indent : Nat) (text : List Char) : List Char :=
  '\'' :: singleQuotedBody indent false text ++ ['\'']

/-- The sign after the bar that keeps the first line apart from its indentation. -/
def depthHint (text : List Char) : List Char :=
  match text with
  | c :: _ => if c = ' ' ∨ endsLine c then ['2'] else []
  | [] => []

/-- The sign after the bar that tells what becomes of the line ends at the end. -/
def chompingHint (text : List Char) : List Char :=
  match text.reverse with
  | [] => ['-']
  | last :: before =>
      if !endsLine last then ['-']
      else match before with
        | [] => ['+']
        | c :: _ => if endsLine c then ['+'] else []

/-- The lines of a literal block. -/
def literalBody (indent : Nat) (atLineStart : Bool) : List Char → List Char
  | [] => if atLineStart then [] else ['\n']
  | c :: rest =>
      if endsLine c then c :: literalBody indent true rest
      else (if atLineStart then spaces indent else []) ++ c :: literalBody indent false rest

/-- A literal block with the end of its last line. -/
def literal (indent : Nat) (text : List Char) : List Char :=
  '|' :: depthHint text ++ chompingHint text ++ '\n' :: literalBody indent true text

/-- A text with the end of its last line, in a style; further lines are indented by `indent`. -/
def styledLine (style : Style) (indent : Nat) (text : List Char) : List Char :=
  match style with
  | .plain => text ++ ['\n']
  | .singleQuoted => singleQuoted indent text ++ ['\n']
  | .doubleQuoted => doubleQuoted text ++ ['\n']
  | .literal | .folded => literal indent text

/-- A text with the end of its last line; further lines are indented by `indent`. -/
def textLine (indent : Nat) (text : String) : List Char :=
  styledLine (styleOf text) indent text.toList

/-! ## Keys -/

/-- The length in bytes up to which a key stands before a colon on its line. -/
def maxKeySize : Nat := 128

/-- Whether a key stands before a colon on its line. -/
def isSimpleKey (key : String) : Bool :=
  key.utf8ByteSize ≤ maxKeySize && !key.toList.any endsLine

/-- A key that stands before a colon on its line. -/
def simpleKey (key : String) : List Char :=
  match styleOf key with
  | .plain => key.toList
  | .singleQuoted => singleQuoted 0 key.toList
  | _ => doubleQuoted key.toList

/-- A key of a record at a column, with what ends it. -/
def keyText (column : Nat) (key : String) : List Char :=
  if isSimpleKey key then simpleKey key ++ [':']
  else '?' :: ' ' :: textLine (column + 2) key

/-! ## Values -/

/-- What is written before a value, and the columns of its parts. -/
structure Place where
  beforeScalar : List Char
  /-- The column of the further lines of a text. -/
  textColumn : Nat
  beforeList : List Char
  listColumn : Nat
  beforeRecord : List Char
  recordColumn : Nat

namespace Place

/-- Where the column is reached already. -/
def block (column : Nat) : Place :=
  ⟨[], column, [], column, [], column⟩

/-- After a key and a colon, in a record at a column. -/
def afterColon (column : Nat) : Place where
  beforeScalar := [' ']
  textColumn := column + 2
  beforeList := '\n' :: spaces column
  listColumn := column
  beforeRecord := '\n' :: spaces (column + 2)
  recordColumn := column + 2

/-- On the line after a key with a question mark, in a record at a column. -/
def afterQuestion (column : Nat) : Place :=
  let sign := spaces column ++ [':', ' ']
  ⟨sign, column + 2, sign, column + 2, sign, column + 2⟩

/-- After a key, in a record at a column. -/
def afterKey (column : Nat) (key : String) : Place :=
  if isSimpleKey key then afterColon column else afterQuestion column

end Place

mutual

/-- A value with the end of its last line. -/
def lines (place : Place) : Datum → List Char
  | .null => place.beforeScalar ++ ['n', 'u', 'l', 'l', '\n']
  | .natural value => place.beforeScalar ++ Nat.toDigits 10 value ++ ['\n']
  | .text value => place.beforeScalar ++ textLine place.textColumn value
  | .list [] => place.beforeScalar ++ ['[', ']', '\n']
  | .list (item :: items) =>
      let column := place.listColumn
      place.beforeList ++ '-' :: ' ' :: lines (.block (column + 2)) item ++ itemLines column items
  | .record [] => place.beforeScalar ++ ['\x7b', '\x7d', '\n']
  | .record ((name, value) :: fields) =>
      let column := place.recordColumn
      place.beforeRecord ++ keyText column name ++ lines (.afterKey column name) value ++
        fieldLines column fields

/-- The items after the first of a list at a column. -/
def itemLines (column : Nat) : List Datum → List Char
  | [] => []
  | item :: items =>
      spaces column ++ '-' :: ' ' :: lines (.block (column + 2)) item ++ itemLines column items

/-- The fields after the first of a record at a column. -/
def fieldLines (column : Nat) : List (String × Datum) → List Char
  | [] => []
  | (name, value) :: fields =>
      spaces column ++ keyText column name ++ lines (.afterKey column name) value ++
        fieldLines column fields

end

/-- A list or record as a document. -/
def document (value : Datum) : List Char :=
  lines (.block 0) value

end StorageSurvey.Yaml
