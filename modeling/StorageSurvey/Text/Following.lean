import StorageSurvey.Text.EmojiTable
import StorageSurvey.Text.Ligature

/-!
# Characters that share columns

Most characters take their columns alone.  Some form one sign with the characters after them: an
emoji with its skin tone, the two letters of a flag, emoji tied by a joiner, the parts of a
ligature.  A text is looked at from its end.  `Following` is what has to be known of the characters
met so far, and `Following.step` gives the columns that the character before adds to them.

A space is a cut point: by `Following.step_space` nothing that stands after a space bears on what
stands before it.
-/

namespace StorageSurvey.Text

/-- The columns that a character takes alone. -/
def charWidth (c : Char) : Nat :=
  if c.toNat < 0xA0 then 1
  else if c.toNat = 0x17A4 then 2
  else if c.toNat = 0x17D8 then 3
  else if zeroWidthRanges.contains c then 0
  else if wideRanges.contains c then 2
  else 1

/-- The form that a variation selector asks of the character before it. -/
inductive Selector
  | fullwidth
  | text
  | emoji
deriving DecidableEq

/-- The form that `c` asks for, when it is a variation selector. -/
def Selector.ofChar? (c : Char) : Option Selector :=
  if c.toNat = 0xFE01 then some .fullwidth
  else if c.toNat = 0xFE0E then some .text
  else if c.toNat = 0xFE0F then some .emoji
  else none

/-- The sign that the characters met so far begin with. -/
inductive Sign
  /-- One that joins nothing before it. -/
  | plain
  | ligature (part : Ligature)
  /-- A whole emoji. -/
  | emoji
  | skinTone
  /-- One letter of a flag. -/
  | flagLetter
  /-- Two or more letters of flags. -/
  | flagLetters
  /-- An emoji with a joiner before it. -/
  | joinedEmoji
  /-- An emoji with a joiner and a key cap before it. -/
  | joinedKeycap
  /-- An emoji with a joiner and one letter of a flag before it. -/
  | joinedFlagLetter
  /-- An emoji with a joiner and whole flags before it. -/
  | joinedFlags
  /-- An emoji with a joiner, whole flags and one more letter before it. -/
  | joinedFlagsAndLetter
deriving DecidableEq

namespace Sign

/-- The letters of flags. -/
def flagLetterRanges : Ranges :=
  [(0x1F1E6, 0x1F1FF)]

/-- The five skin tones. -/
def skinToneRanges : Ranges :=
  [(0x1F3FB, 0x1F3FF)]

/-- The ligature that has been met, if one is left. -/
def ofLigature? : Option Ligature → Sign
  | some part => .ligature part
  | none => .plain

/-- The sign that begins with `c` when nothing after `c` joins it. -/
def startedBy (c : Char) : Sign :=
  if flagLetterRanges.contains c then .flagLetter
  else if skinToneRanges.contains c then .skinTone
  else if emojiRanges.contains c then .emoji
  else ofLigature? (Ligature.endingIn? c)

/-- What is left of a sign behind a variation selector: a ligature does not see the selector, and
joined emoji wait for the emoji that it makes. -/
def behind (selector : Selector) : Sign → Sign
  | .ligature part => if part.admitsMarks then .ligature part else .plain
  | .joinedEmoji => if selector = .emoji then .joinedEmoji else .plain
  | .joinedKeycap => if selector = .emoji then .joinedKeycap else .plain
  | _ => .plain

/-- Whether an emoji made by a selector is one sign with what stands after the selector. -/
def isJoined : Sign → Bool
  | .joinedEmoji | .joinedKeycap => true
  | _ => false

/-- The columns that `c` adds to a sign that it joins, and the sign that then begins.  Before joined
emoji the letters of a flag take no columns; one that has no partner yet counts one, and its
partner takes that column back. -/
def join? (c : Char) : Sign → Option (Int × Sign)
  | .plain => none
  | .ligature part => (part.join? c).map fun joined => (joined.1, ofLigature? joined.2)
  | .emoji => if c = joiner then some (0, .joinedEmoji) else none
  | .skinTone =>
    if skinToneBaseRanges.contains c then some (0, .emoji)
    else if c = joiner then some (0, .joinedEmoji)
    else none
  | .flagLetter => if flagLetterRanges.contains c then some (1, .flagLetters) else none
  | .flagLetters =>
    if flagLetterRanges.contains c then some (1, .flagLetters)
    else if c = joiner then some (0, .joinedEmoji)
    else none
  | .joinedEmoji =>
    if c.toNat = 0x20E3 then some (0, .joinedKeycap)
    else if flagLetterRanges.contains c then some (1, .joinedFlagLetter)
    else if skinToneRanges.contains c then some (0, .skinTone)
    else if emojiRanges.contains c then some (0, .emoji)
    else none
  | .joinedKeycap => none
  | .joinedFlagLetter => if flagLetterRanges.contains c then some (-1, .joinedFlags) else none
  | .joinedFlags =>
    if flagLetterRanges.contains c then some (3, .joinedFlagsAndLetter)
    else if c = joiner then some (0, .joinedEmoji)
    else none
  | .joinedFlagsAndLetter =>
    if flagLetterRanges.contains c then some (-1, .joinedFlags)
    else if c = joiner then some (0, .joinedEmoji)
    else none

theorem join?_space (sign : Sign) : sign.join? ' ' = none := by
  cases sign with
  | ligature part => simp [join?, Ligature.join?_space]
  | _ => decide

end Sign

/-- What stands after a character, as far as it bears on the columns of the character: perhaps a
variation selector, and the sign after it. -/
structure Following where
  selector : Option Selector
  sign : Sign

namespace Following

/-- The quotation marks that have a wide form. -/
def quotationMarkRanges : Ranges :=
  [(0x2018, 0x2019), (0x201C, 0x201D)]

/-- Nothing that joins. -/
def plain : Following := ⟨none, .plain⟩

/-- The columns that `c` adds to what stands after it, and what stands after the character before
`c`. -/
def step (c : Char) (next : Following) : Int × Following :=
  if next.selector = some .emoji && emojiOnRequestRanges.contains c then
    (if next.sign.isJoined then 0 else 2, ⟨none, .emoji⟩)
  else
    match Selector.ofChar? c with
    | some selector => (0, ⟨some selector, next.sign.behind selector⟩)
    | none =>
      if next.selector = some .text && textOnRequestRanges.contains c then (1, plain)
      else if next.selector = some .fullwidth && quotationMarkRanges.contains c then (2, plain)
      else
        match next.sign.join? c with
        | some (columns, sign) => (columns, ⟨none, sign⟩)
        | none => (charWidth c, ⟨none, .startedBy c⟩)

/-- A space takes one column, whatever stands after it, and joins nothing before it. -/
@[simp] theorem step_space (next : Following) : step ' ' next = (1, plain) := by
  have hrequest : emojiOnRequestRanges.contains ' ' = false := by decide
  have htext : textOnRequestRanges.contains ' ' = false := by decide
  have hquote : quotationMarkRanges.contains ' ' = false := by decide
  have hselector : Selector.ofChar? ' ' = none := by decide
  have hwidth : charWidth ' ' = 1 := by decide
  have hstart : Sign.startedBy ' ' = .plain := by decide
  simp [step, plain, hrequest, htext, hquote, hselector, hwidth, hstart, Sign.join?_space]

end Following

end StorageSurvey.Text
