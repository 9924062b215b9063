import StorageSurvey.Text.WidthTable

/-!
# Ligatures

Some letters are written into the letter after them and share its columns.  A text is looked at
from its end, so a ligature is known by the part met so far, and `Ligature.join?` says whether the
character before belongs to it.
-/

namespace StorageSurvey.Text

/-- The character that ties the characters on both sides. -/
def joiner : Char := '\u200D'

/-- The part of a ligature that has been met. -/
inductive Ligature
  /-- An Arabic alef, which joins a lam before it. -/
  | alef
  /-- A Hebrew lamed, which a joiner ties to an alef. -/
  | lamed (joined : Bool)
  /-- A Buginese ya, which a joiner ties to the vowel i. -/
  | ya (joined : Bool)
  /-- The vowel i and ya, which join the letter a before them. -/
  | vowelAndYa
  /-- A Tifinagh consonant, which a joiner or the consonant joiner ties to another. -/
  | consonant (joined : Bool)
  /-- A Tifinagh consonant and the consonant joiner before it. -/
  | joinedConsonant
  /-- A Lisu tone that joins another before it. -/
  | tone
  /-- An Old Turkic i, which a joiner ties to an ec. -/
  | orkhonI (joined : Bool)
  /-- A Khmer letter, which a coeng puts below the letter before. -/
  | coengLetter
  /-- The Kirat Rai vowel e. -/
  | vowelE
  /-- The Kirat Rai vowel ai, or two vowels e. -/
  | vowelAi
deriving DecidableEq

namespace Ligature

/-- The letters of the joining group alef. -/
def alefRanges : Ranges :=
  [(0x622, 0x623), (0x625, 0x625), (0x627, 0x627), (0x671, 0x673), (0x675, 0x675),
    (0x773, 0x774), (0x870, 0x882)]

/-- The letters of the joining group lam. -/
def lamRanges : Ranges :=
  [(0x644, 0x644), (0x6B5, 0x6B8), (0x76A, 0x76A), (0x8A6, 0x8A6), (0x8C7, 0x8C7)]

/-- The Khmer letters that have a form below the line. -/
def coengLetterRanges : Ranges :=
  [(0x1780, 0x1782), (0x1784, 0x1787), (0x1789, 0x178C), (0x178E, 0x1793), (0x1795, 0x1798),
    (0x179B, 0x179D), (0x17A0, 0x17A0), (0x17A2, 0x17A2), (0x17A7, 0x17A7), (0x17AB, 0x17AC),
    (0x17AF, 0x17AF)]

/-- The Tifinagh consonants that join another. -/
def consonantRanges : Ranges :=
  [(0x2D31, 0x2D65), (0x2D6F, 0x2D6F)]

/-- The Lisu tones that join one after them. -/
def firstToneRanges : Ranges :=
  [(0xA4F8, 0xA4FB)]

/-- The Lisu tones that join one before them. -/
def secondToneRanges : Ranges :=
  [(0xA4FC, 0xA4FD)]

/-- The marks that a ligature does not see. -/
def ignoredMarkRanges : Ranges :=
  [(0x34F, 0x34F), (0x17B4, 0x17B5), (0x180B, 0x180D), (0x180F, 0x180F), (0xFE00, 0xFE0F),
    (0xE0100, 0xE01EF)]

/-- The ligature that may end in `c`. -/
def endingIn? (c : Char) : Option Ligature :=
  if alefRanges.contains c then some .alef
  else if c.toNat = 0x5DC then some (.lamed false)
  else if coengLetterRanges.contains c then some .coengLetter
  else if c.toNat = 0x1A10 then some (.ya false)
  else if consonantRanges.contains c then some (.consonant false)
  else if secondToneRanges.contains c then some .tone
  else if c.toNat = 0x10C03 then some (.orkhonI false)
  else if c.toNat = 0x16D67 then some .vowelE
  else if c.toNat = 0x16D68 then some .vowelAi
  else none

/-- Whether marks may stand between the parts of the ligature. -/
def admitsMarks : Ligature → Bool
  | .vowelE | .vowelAi => false
  | _ => true

/-- What a joiner makes of a ligature that admits marks: it parts an alef from a lam, and ties the
other letters. -/
def withJoiner : Ligature → Option Ligature
  | .alef => none
  | .lamed _ => some (.lamed true)
  | .ya _ => some (.ya true)
  | .consonant _ => some (.consonant true)
  | .orkhonI _ => some (.orkhonI true)
  | other => some other

/-- The columns that the letter or sign `c` adds when it is the next part of the ligature, and the
part that has then been met.  A coeng and the first of two joined consonants take back the column
that was counted for the sign after them. -/
def before? (c : Char) : Ligature → Option (Int × Option Ligature)
  | .alef =>
    if lamRanges.contains c then some (0, none)
    else if zeroWidthRanges.contains c && !partingRanges.contains c then some (0, some .alef)
    else none
  | .lamed joined => if joined && c.toNat = 0x5D0 then some (0, none) else none
  | .ya joined => if joined && c.toNat = 0x1A17 then some (0, some .vowelAndYa) else none
  | .vowelAndYa => if c.toNat = 0x1A15 then some (0, none) else none
  | .consonant joined =>
    if c.toNat = 0x2D7F then some (1, some .joinedConsonant)
    else if joined && consonantRanges.contains c then some (0, none)
    else none
  | .joinedConsonant => if consonantRanges.contains c then some (-1, none) else none
  | .tone => if firstToneRanges.contains c then some (0, none) else none
  | .orkhonI joined => if joined && c.toNat = 0x10C32 then some (0, none) else none
  | .coengLetter => if c.toNat = 0x17D2 then some (-1, none) else none
  | .vowelE =>
    if c.toNat = 0x16D63 ∨ c.toNat = 0x16D69 then some (0, none)
    else if c.toNat = 0x16D67 then some (0, some .vowelAi)
    else if c.toNat = 0x16D68 then some (1, some .vowelE)
    else none
  | .vowelAi => if c.toNat = 0x16D63 then some (0, none) else none

/-- The columns that `c` adds to a ligature that it belongs to, and the part that has then been
met. -/
def join? (c : Char) (ligature : Ligature) : Option (Int × Option Ligature) :=
  if ligature.admitsMarks && c = joiner then some (0, ligature.withJoiner)
  else if ligature.admitsMarks && ignoredMarkRanges.contains c then some (0, some ligature)
  else ligature.before? c

theorem join?_space (ligature : Ligature) : ligature.join? ' ' = none := by
  rcases ligature with _ | ⟨_ | _⟩ | ⟨_ | _⟩ | _ | ⟨_ | _⟩ | _ | _ | ⟨_ | _⟩ | _ | _ | _ <;>
    decide +kernel

end Ligature

end StorageSurvey.Text
