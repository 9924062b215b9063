import StorageSurvey.Yaml.QuotedScalar
import StorageSurvey.Yaml.Token

/-!
# Names of nodes: anchors, tags and the directives for them

A tag is a handle and a suffix, as in `!e!point`; what the handle stands for is given by a
directive at the head of the document.  Without a handle of its own a tag has the handle `!`, and
between angle brackets it is written out in full.
-/

namespace StorageSurvey.Yaml

/-! ## Anchors and references -/

/-- The signs that may follow the name of an anchor without a blank. -/
def endsAnchor (c : Char) : Bool :=
  isGap c || c == '?' || c == ':' || c == ',' || c == ']' || c == '\x7d' || c == '%' || c == '@' ||
    c == '\x60'

/-- The name after the sign `&` or `*` at the cursor. -/
def anchorName? (cursor : Cursor) : Option (String × Cursor) :=
  let (name, cursor) := (cursor.skip 1).takeWhile isWordChar
  let ended := match cursor.text with
    | [] => true
    | c :: _ => endsAnchor c
  if name.isEmpty || !ended then none else some (String.ofList name, cursor)

/-! ## Tags -/

/-- The characters of a tag; a comma and square brackets only where the tag has an end of its
own. -/
def isTagChar (delimited : Bool) (c : Char) : Bool :=
  isWordChar c || c == ';' || c == '/' || c == '?' || c == ':' || c == '@' || c == '&' ||
    c == '=' || c == '+' || c == '$' || c == '.' || c == '!' || c == '~' || c == '*' ||
    c == '\'' || c == '(' || c == ')' || (delimited && (c == ',' || c == '[' || c == ']'))

/-- A character given by its bytes, as far as they are read: how many are to come, and the bits of
those before. -/
structure Octets where
  missing : Nat
  bits : Nat

namespace Octets

def none : Octets := ⟨0, 0⟩

/-- Takes a byte: the first says how many there are, the others go on with `10`. -/
def push? (octets : Octets) (octet : Nat) : Option Octets :=
  if octets.missing = 0 then
    if octet < 0x80 then some ⟨0, octet⟩
    else if octet / 0x20 = 6 then some ⟨1, octet % 0x20⟩
    else if octet / 0x10 = 14 then some ⟨2, octet % 0x10⟩
    else if octet / 8 = 30 then some ⟨3, octet % 8⟩
    else .none
  else if octet / 0x40 = 2 then some ⟨octets.missing - 1, octets.bits * 0x40 + octet % 0x40⟩
  else .none

end Octets

/-- Reads on in a tag, whose text is given in reverse; bytes may be given after percent signs. -/
def tagTextFrom (delimited : Bool) (taken : List Char) (octets : Octets) (mark : Mark) :
    List Char → Option (List Char × Cursor)
  | '%' :: a :: b :: rest => do
      let octet ← hexNumber? [a, b]
      let octets ← octets.push? octet
      if octets.missing = 0 then
        tagTextFrom delimited (Char.ofNat octets.bits :: taken) .none (mark.ahead 3) rest
      else tagTextFrom delimited taken octets (mark.ahead 3) rest
  | c :: rest =>
      if octets.missing ≠ 0 || c == '%' then none
      else if isTagChar delimited c then
        tagTextFrom delimited (c :: taken) .none (mark.ahead 1) rest
      else some (taken.reverse, ⟨c :: rest, mark⟩)
  | [] => if octets.missing ≠ 0 then none else some (taken.reverse, ⟨[], mark⟩)

/-- The text of a tag at the cursor, after `taken`. -/
def tagText? (delimited : Bool) (taken : List Char) (cursor : Cursor) :
    Option (List Char × Cursor) :=
  tagTextFrom delimited taken.reverse .none cursor.mark cursor.text

/-- The handle at the cursor: a `!`, a word, and another `!` if it is there. -/
def tagHandle? (cursor : Cursor) : Option (List Char × Cursor) :=
  match cursor.text with
  | '!' :: _ =>
      let (word, cursor) := (cursor.skip 1).takeWhile isWordChar
      match cursor.text with
      | '!' :: _ => some ('!' :: word ++ ['!'], cursor.skip 1)
      | _ => some ('!' :: word, cursor)
  | _ => none

/-- Whether a handle has both its signs. -/
def isFullHandle (handle : List Char) : Bool :=
  2 ≤ handle.length && handle.getLast? == some '!'

/-- The handle and the suffix of the tag at the cursor. -/
def tagParts? (cursor : Cursor) : Option ((List Char × List Char) × Cursor) :=
  match cursor.text with
  | '!' :: '<' :: _ => do
      let (suffix, cursor) ← tagText? true [] (cursor.skip 2)
      match cursor.text with
      | '>' :: _ => if suffix.isEmpty then none else some (([], suffix), cursor.skip 1)
      | _ => none
  | _ => do
      let (handle, cursor) ← tagHandle? cursor
      if isFullHandle handle then do
        let (suffix, cursor) ← tagText? false [] cursor
        if suffix.isEmpty then none else some ((handle, suffix), cursor)
      else do
        let (suffix, cursor) ← tagText? false (handle.drop 1) cursor
        if suffix.isEmpty then some (([], ['!']), cursor) else some ((['!'], suffix), cursor)

/-- The tag at the cursor.  A gap must follow, or inside brackets a comma. -/
def tag? (inFlow : Bool) (cursor : Cursor) : Option (Token × Cursor) := do
  let ((handle, suffix), cursor) ← tagParts? cursor
  let ended := atGap cursor.text || (inFlow && cursor.text.head? == some ',')
  if ended then some (.tag (String.ofList handle) (String.ofList suffix), cursor) else none

/-! ## Directives -/

/-- A number of one to nine digits. -/
def versionNumber? (cursor : Cursor) : Option (Nat × Cursor) :=
  let (digits, cursor) := cursor.takeWhile Char.isDigit
  if digits.isEmpty || 9 < digits.length then none
  else some (Nat.ofDigitChars 10 digits 0, cursor)

/-- The version after the name of its directive. -/
def versionDirective? (cursor : Cursor) : Option (Token × Cursor) := do
  let (major, cursor) ← versionNumber? (cursor.dropWhile isBlank)
  match cursor.text with
  | '.' :: _ => do
      let (minor, cursor) ← versionNumber? (cursor.skip 1)
      some (.version major minor, cursor)
  | _ => none

/-- The handle and what it stands for, after the name of the directive. -/
def tagDirective? (cursor : Cursor) : Option (Token × Cursor) := do
  let (handle, cursor) ← tagHandle? (cursor.dropWhile isBlank)
  if !(isFullHandle handle || handle == ['!']) then none
  if !(cursor.text.head?.any isBlank) then none
  let (expansion, cursor) ← tagText? true [] (cursor.dropWhile isBlank)
  if expansion.isEmpty || !atGap cursor.text then none
  some (.tagHandle (String.ofList handle) (String.ofList expansion), cursor)

/-- The directive whose sign is at the cursor, with its line. -/
def directive? (cursor : Cursor) : Option (Token × Cursor) := do
  let (name, cursor) := (cursor.skip 1).takeWhile isWordChar
  if !atGap cursor.text then none
  let (token, cursor) ←
    if name = "YAML".toList then versionDirective? cursor
    else if name = "TAG".toList then tagDirective? cursor
    else none
  let cursor := (cursor.dropWhile isBlank).skipComment
  if atLineEnd cursor.text then some (token, cursor.skipBreak) else none

end StorageSurvey.Yaml
