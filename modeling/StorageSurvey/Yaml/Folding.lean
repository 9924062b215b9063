import StorageSurvey.Yaml.Cursor

/-!
# Folding of lines

Scalars in quotes and plain scalars may go on over several lines.  The gap between two words then
becomes one space, or the line breaks after the first.  Blanks around a line break mean nothing.
-/

namespace StorageSurvey.Yaml

/-- The gap after a word. -/
inductive Gap
  /-- Blanks on one line, in reverse. -/
  | blanks (text : List Char)
  /-- Line breaks: the first, unless it was escaped, and the others in reverse. -/
  | lines (first : Option Char) (others : List Char)
  deriving DecidableEq, Repr

namespace Gap

/-- No gap. -/
def none : Gap := .blanks []

def crossesLine : Gap → Bool
  | .blanks _ => false
  | .lines _ _ => true

/-- The gap with one more blank. -/
def blank (c : Char) : Gap → Gap
  | .blanks text => .blanks (c :: text)
  | gap => gap

/-- The gap with one more line break. -/
def lineBreak (c : Char) : Gap → Gap
  | .blanks _ => .lines (some c) []
  | .lines first others => .lines first (c :: others)

/-- What a gap stands for, in reverse. -/
def folded : Gap → List Char
  | .blanks text => text
  | .lines (some '\n') [] => [' ']
  | .lines (some '\n') others => others
  | .lines first others => others ++ first.toList

end Gap

/-- A scalar as far as it is read: its text in reverse, and the gap after the last word. -/
structure Folding where
  text : List Char
  gap : Gap
  deriving DecidableEq, Repr

namespace Folding

def empty : Folding :=
  ⟨[], .none⟩

/-- Ends the gap. -/
def settle (folding : Folding) : Folding :=
  ⟨folding.gap.folded ++ folding.text, .none⟩

/-- Takes a character of a word. -/
def push (folding : Folding) (c : Char) : Folding :=
  ⟨c :: folding.settle.text, .none⟩

/-- Takes a blank or a line break. -/
def pushGap (folding : Folding) (c : Char) : Folding :=
  if isBreak c then { folding with gap := folding.gap.lineBreak c }
  else { folding with gap := folding.gap.blank c }

/-- Takes a line break that was escaped: nothing stands for it. -/
def pushEscapedBreak (folding : Folding) : Folding :=
  ⟨folding.settle.text, .lines .none []⟩

/-- The text of a scalar that ends with its last word. -/
def value (folding : Folding) : List Char :=
  folding.text.reverse

end Folding

end StorageSurvey.Yaml
