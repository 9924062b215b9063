import StorageSurvey.Yaml.Cursor

/-!
# Block scalars

A block scalar is a header and indented lines.  In a literal scalar the line breaks stay; in a
folded one a single break between two lines that do not begin with a blank becomes a space.  The
header may say how deep the lines are indented and what becomes of the breaks at the end; without
the first the deepest of the lines before the text, or its first line, decides.
-/

namespace StorageSurvey.Yaml

/-- What becomes of the line breaks at the end: the first stays, none stays, or all stay. -/
inductive Chomping
  | clip
  | strip
  | keep
  deriving DecidableEq, Repr

namespace BlockScalar

/-! ## The header -/

structure Header where
  chomping : Chomping
  /-- The depth of the lines below the surrounding block, if it is given. -/
  depth : Option Nat
  deriving DecidableEq, Repr

def chomping? : Char → Option Chomping
  | '+' => some .keep
  | '-' => some .strip
  | _ => none

/-- The depth that a digit gives. -/
def depth? (c : Char) : Option Nat :=
  if c.isDigit then some (c.toNat - 48) else none

/-- What the signs after the bar say, in either order, and how many they are.  The depth is not
zero. -/
def header? : List Char → Option (Header × Nat)
  | c :: rest =>
      match chomping? c, depth? c with
      | some chomping, _ => match rest.head?.bind depth? with
          | some 0 => none
          | some depth => some (⟨chomping, some depth⟩, 2)
          | none => some (⟨chomping, none⟩, 1)
      | none, some 0 => none
      | none, some depth => match rest.head?.bind chomping? with
          | some chomping => some (⟨chomping, some depth⟩, 2)
          | none => some (⟨.clip, some depth⟩, 1)
      | none, none => some (⟨.clip, none⟩, 0)
  | [] => some (⟨.clip, none⟩, 0)

/-! ## The lines before the text -/

/-- The breaks of the lines before the text, in reverse, the column of the deepest of these lines
and of the first that is not empty, and the cursor there. -/
def leadingLines (breaks : List Char) (deepest : Nat) (mark : Mark) :
    List Char → Option (List Char × Nat × Cursor)
  | [] => some (breaks, max deepest mark.column, ⟨[], mark⟩)
  | c :: rest =>
      if c = ' ' then leadingLines breaks deepest (mark.ahead 1) rest
      else if c = '\t' then none
      else if isBreak c then
        leadingLines (c :: breaks) (max deepest mark.column) (mark.past c) rest
      else some (breaks, max deepest mark.column, ⟨c :: rest, mark⟩)

/-! ## The text -/

/-- The scalar as far as it is read. -/
structure Body where
  /-- The text, in reverse. -/
  text : List Char
  /-- The break that ended the last line of the text. -/
  lineBreak : Option Char
  /-- The breaks of the empty lines after it, in reverse. -/
  emptyLines : List Char
  /-- Whether the last line of the text began with a blank. -/
  afterBlank : Bool
  deriving DecidableEq, Repr

namespace Body

/-- Begins a line of the text with the character `c`. -/
def beginLine (body : Body) (isLiteral : Bool) (c : Char) : Body :=
  let folds := !isLiteral && body.lineBreak == some '\n' && !body.afterBlank && !isBlank c
  let break_ :=
    if folds then (if body.emptyLines.isEmpty then [' '] else []) else body.lineBreak.toList
  ⟨c :: body.emptyLines ++ break_ ++ body.text, none, [], isBlank c⟩

/-- The text of the scalar when it has ended. -/
def value (body : Body) (chomping : Chomping) : List Char :=
  let ending := match chomping with
    | .strip => []
    | .clip => body.lineBreak.toList
    | .keep => body.emptyLines ++ body.lineBreak.toList
  (ending ++ body.text).reverse

end Body

/-- Reads on in the text; `inLine` tells whether a line of the text has begun. -/
def bodyFrom (isLiteral : Bool) (indent : Nat) (body : Body) (inLine : Bool) (mark : Mark) :
    List Char → Option (Body × Cursor)
  | [] => some (body, ⟨[], mark⟩)
  | c :: rest =>
      if inLine then
        if isBreak c then
          bodyFrom isLiteral indent { body with lineBreak := some c } false (mark.past c) rest
        else bodyFrom isLiteral indent { body with text := c :: body.text } true (mark.ahead 1) rest
      else if c = ' ' ∧ mark.column < indent then
        bodyFrom isLiteral indent body false (mark.ahead 1) rest
      else if c = '\t' ∧ mark.column < indent then none
      else if isBreak c then
        bodyFrom isLiteral indent { body with emptyLines := c :: body.emptyLines } false
          (mark.past c) rest
      else if mark.column = indent then
        bodyFrom isLiteral indent (body.beginLine isLiteral c) true (mark.ahead 1) rest
      else some (body, ⟨c :: rest, mark⟩)

end BlockScalar

open BlockScalar in
/-- The block scalar whose sign `|` or `>` is at the cursor, within a block whose column is
`indent`, or -1 at the top. -/
def blockScalar? (isLiteral : Bool) (indent : Int) (cursor : Cursor) :
    Option (List Char × Cursor) := do
  let cursor := cursor.skip 1
  let (header, length) ← header? cursor.text
  let cursor := ((cursor.skip length).dropWhile isBlank).skipComment
  if !atLineEnd cursor.text then none
  let cursor := cursor.skipBreak
  match header.depth with
  | some depth => do
      let column := (max indent 0).toNat + depth
      let (body, cursor) ←
        bodyFrom isLiteral column ⟨[], none, [], false⟩ false cursor.mark cursor.text
      return (body.value header.chomping, cursor)
  | none => do
      let (breaks, deepest, cursor) ← leadingLines [] 0 cursor.mark cursor.text
      let column := max deepest (max (indent + 1).toNat 1)
      let (body, cursor) ←
        bodyFrom isLiteral column ⟨[], none, breaks, false⟩ false cursor.mark cursor.text
      return (body.value header.chomping, cursor)

end StorageSurvey.Yaml
