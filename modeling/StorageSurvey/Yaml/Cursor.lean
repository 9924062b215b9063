/-!
# Places in a YAML text

The text of a document is prepared before it is read: characters that YAML forbids are refused, a
byte order mark at the start is dropped, and the four ways to end a line that mean the same become
a line feed.  The line and paragraph separators end a line too, and stay what they are.

A `Cursor` is what is left of a prepared text, with the line and the column that it starts in.
-/

namespace StorageSurvey.Yaml

/-! ## Characters -/

/-- Whether a character may stand in a document at all. -/
def isAllowed (c : Char) : Bool :=
  let n := c.toNat
  n == 0x09 || n == 0x0A || n == 0x0D || (0x20 ≤ n && n ≤ 0x7E) || n == 0x85 ||
    (0xA0 ≤ n && n ≤ 0xD7FF) || (0xE000 ≤ n && n ≤ 0xFFFD) || 0x10000 ≤ n

def byteOrderMark : Char := '\ufeff'

/-- The line and the paragraph separator. -/
def isSeparator (c : Char) : Bool :=
  c == '\u2028' || c == '\u2029'

/-- The characters that end a line in a prepared text. -/
def isBreak (c : Char) : Bool :=
  c == '\n' || isSeparator c

def isBlank (c : Char) : Bool :=
  c == ' ' || c == '\t'

def isGap (c : Char) : Bool :=
  isBlank c || isBreak c

/-- The characters of names of anchors, tags and directives. -/
def isWordChar (c : Char) : Bool :=
  c.isAlphanum || c == '_' || c == '-'

/-- Whether a text has ended, or a blank or a line break is next. -/
def atGap : List Char → Bool
  | [] => true
  | c :: _ => isGap c

/-- Whether a text has ended, or a line break is next. -/
def atLineEnd : List Char → Bool
  | [] => true
  | c :: _ => isBreak c

/-- Whether `---` or `...` stands at the start of a text, with a gap after it. -/
def atDocumentMark : List Char → Bool
  | '-' :: '-' :: '-' :: rest => atGap rest
  | '.' :: '.' :: '.' :: rest => atGap rest
  | _ => false

/-! ## Prepared texts -/

/-- A text whose line ends that mean the same are all line feeds. -/
def unifyBreaks : List Char → List Char
  | [] => []
  | '\r' :: '\n' :: rest => '\n' :: unifyBreaks rest
  | c :: rest => (if c = '\r' ∨ c = '\u0085' then '\n' else c) :: unifyBreaks rest

/-- A text as it is read, unless it holds a forbidden character. -/
def prepare? (text : List Char) : Option (List Char) :=
  if text.all isAllowed then
    some (unifyBreaks (match text with
      | c :: rest => if c = byteOrderMark then rest else text
      | [] => []))
  else none

/-! ## Cursors -/

/-- A place in a text. -/
structure Mark where
  line : Nat
  column : Nat
  deriving DecidableEq, Repr

namespace Mark

/-- The place after one more character. -/
def past (mark : Mark) (c : Char) : Mark :=
  if isBreak c then ⟨mark.line + 1, 0⟩ else ⟨mark.line, mark.column + 1⟩

/-- The place `n` characters further on the line. -/
def ahead (mark : Mark) (n : Nat) : Mark :=
  ⟨mark.line, mark.column + n⟩

end Mark

/-- What is left of a text, and where it starts. -/
structure Cursor where
  text : List Char
  mark : Mark
  deriving DecidableEq, Repr

namespace Cursor

def start (text : List Char) : Cursor :=
  ⟨text, ⟨0, 0⟩⟩

def column (cursor : Cursor) : Nat :=
  cursor.mark.column

/-- The cursor after `n` characters of the line. -/
def skip (cursor : Cursor) (n : Nat) : Cursor :=
  ⟨cursor.text.drop n, cursor.mark.ahead n⟩

/-- The characters of the line that satisfy `p`, and the cursor after them. -/
def takeWhile (cursor : Cursor) (p : Char → Bool) : List Char × Cursor :=
  let taken := cursor.text.takeWhile fun c => p c && !isBreak c
  (taken, cursor.skip taken.length)

def dropWhile (cursor : Cursor) (p : Char → Bool) : Cursor :=
  (cursor.takeWhile p).2

/-- The cursor after a comment, if one is next. -/
def skipComment (cursor : Cursor) : Cursor :=
  match cursor.text with
  | '#' :: _ => cursor.dropWhile fun _ => true
  | _ => cursor

/-- The cursor after a line break, if one is next. -/
def skipBreak (cursor : Cursor) : Cursor :=
  match cursor.text with
  | c :: rest => if isBreak c then ⟨rest, cursor.mark.past c⟩ else cursor
  | [] => cursor

end Cursor

end StorageSurvey.Yaml
