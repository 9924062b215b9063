import StorageSurvey.Yaml.Folding

/-!
# Plain scalars

A scalar without quotes ends before a colon or a comment that follows a gap, at a line that is not
indented deeply enough, and inside brackets at any sign of their own.
-/

namespace StorageSurvey.Yaml

/-- The signs that end a plain scalar inside brackets. -/
def isFlowSign (c : Char) : Bool :=
  c == ',' || c == '[' || c == ']' || c == '\x7b' || c == '\x7d'

/-- Whether a colon inside brackets is followed by a sign that it cannot have beside it. -/
def colonIsMisplaced : List Char → Bool
  | c :: _ => c == '?' || isFlowSign c
  | [] => false

/-- Where plain scalars are read: inside brackets or not, and the column that their lines must
reach. -/
structure PlainContext where
  inFlow : Bool
  indent : Nat
  deriving DecidableEq, Repr

/-- Whether the scalar ends before `c`. -/
def PlainContext.endsBefore (context : PlainContext) (c : Char) (rest : List Char) : Bool :=
  (c == ':' && atGap rest) || (context.inFlow && isFlowSign c)

/-- Reads on in a plain scalar, up to where it ends.  The second part of the answer tells whether
a line ended after the last word, the third is the cursor there. -/
def plainFrom (context : PlainContext) (folding : Folding) (inWord : Bool) (mark : Mark) :
    List Char → Option (List Char × Bool × Cursor)
  | [] => some (folding.value, folding.gap.crossesLine, ⟨[], mark⟩)
  | c :: rest =>
      let ending := some (folding.value, folding.gap.crossesLine, Cursor.mk (c :: rest) mark)
      if isGap c then
        if c = '\t' ∧ folding.gap.crossesLine ∧ mark.column < context.indent then none
        else plainFrom context (folding.pushGap c) false (mark.past c) rest
      else if !inWord && !context.inFlow && mark.column < context.indent &&
          !folding.text.isEmpty then ending
      else if mark.column = 0 ∧ atDocumentMark (c :: rest) then ending
      else if !inWord && c == '#' then ending
      else if context.inFlow && c == ':' && colonIsMisplaced rest then none
      else if context.endsBefore c rest then ending
      else plainFrom context (folding.push c) true (mark.ahead 1) rest

end StorageSurvey.Yaml
