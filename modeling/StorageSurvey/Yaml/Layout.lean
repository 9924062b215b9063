import StorageSurvey.Yaml.BlockScalar
import StorageSurvey.Yaml.PlainScalar
import StorageSurvey.Yaml.Tag

/-!
# From layout to tokens

The blocks of a YAML text are shown by indentation, and a key by the colon after it.  A token that
may turn out to be a key is therefore kept as *pending*: when its colon comes, the token for a key
is put in front of it, and if it is indented more deeply than the block around it, the token for
the start of a table too.  A key stands on one line and is at most 1024 characters long.

A text that goes wrong has the tokens before the fault, except that nothing from the first pending
key on is sure yet.  The tokens of a text without a fault end with `streamEnd`.
-/

namespace StorageSurvey.Yaml

/-- A token that may turn out to be a key. -/
structure PendingKey where
  /-- The number of tokens before it. -/
  position : Nat
  mark : Mark
  /-- Whether the block leaves no other choice than that it is a key. -/
  required : Bool
  deriving DecidableEq, Repr

/-- How far a text is read. -/
structure Layout where
  cursor : Cursor
  /-- The column of the innermost block, or -1 outside of all blocks. -/
  indent : Int
  /-- The columns of the blocks around it. -/
  outerIndents : List Int
  /-- The pending key at the innermost level of brackets. -/
  pending : Option PendingKey
  /-- The pending keys outside of each pair of open brackets. -/
  outerPending : List (Option PendingKey)
  /-- Whether a key may begin here. -/
  keyAllowed : Bool
  /-- The tokens, in reverse. -/
  tokens : List Token
  count : Nat

namespace Layout

def start (text : List Char) : Layout where
  cursor := .start text
  indent := -1
  outerIndents := []
  pending := none
  outerPending := []
  keyAllowed := true
  tokens := []
  count := 0

/-- Whether brackets are open. -/
def inFlow (layout : Layout) : Bool :=
  !layout.outerPending.isEmpty

def push (layout : Layout) (token : Token) : Layout :=
  { layout with tokens := token :: layout.tokens, count := layout.count + 1 }

/-- Puts a token after the first `position` tokens. -/
def insertAt (layout : Layout) (position : Nat) (token : Token) : Layout :=
  let after := layout.count - position
  { layout with
    tokens := layout.tokens.take after ++ token :: layout.tokens.drop after
    count := layout.count + 1 }

def skip (layout : Layout) (n : Nat) : Layout :=
  { layout with cursor := layout.cursor.skip n }

/-! ## Pending keys -/

/-- How long a key may be. -/
def maxKeyLength : Nat := 1024

/-- Whether a pending key is too far away to be one. -/
def isStale (here : Mark) (key : PendingKey) : Bool :=
  key.mark.line < here.line || key.mark.column + maxKeyLength < here.column

/-- A pending key, unless it is stale; one that is required must not be. -/
def refresh (here : Mark) : Option PendingKey → Option (Option PendingKey)
  | none => some none
  | some key =>
      if isStale here key then (if key.required then none else some none) else some (some key)

/-- Gives up all keys that are stale. -/
def dropStale? (layout : Layout) : Option Layout := do
  let here := layout.cursor.mark
  let outerPending ← layout.outerPending.mapM (refresh here)
  let pending ← refresh here layout.pending
  return { layout with pending, outerPending }

/-- Gives up the pending key of this level, which must not be required. -/
def dropPending? (layout : Layout) : Option Layout :=
  match layout.pending with
  | some key => if key.required then none else some { layout with pending := none }
  | none => some layout

/-- Keeps the next token as a pending key, if a key may begin here. -/
def savePending? (layout : Layout) : Option Layout :=
  if layout.keyAllowed then do
    let required := !layout.inFlow && layout.indent == layout.cursor.column
    let layout ← layout.dropPending?
    return { layout with pending := some ⟨layout.count, layout.cursor.mark, required⟩ }
  else some layout

/-- The number of tokens that are sure, whatever follows. -/
def settled (layout : Layout) : Nat :=
  (layout.pending :: layout.outerPending).foldl (fun n key =>
    match key with
    | some key => min n key.position
    | none => n) layout.count

/-- The tokens that are sure, in order. -/
def settledTokens (layout : Layout) : List Token :=
  (layout.tokens.drop (layout.count - layout.settled)).reverse

/-! ## Blocks -/

/-- Opens a block at a column, if that is deeper than the innermost one, by the token `opening`
after the first `position` tokens. -/
def openBlock (layout : Layout) (column position : Nat) (opening : Token) : Layout :=
  if !layout.inFlow && layout.indent < column then
    { layout.insertAt position opening with
      indent := column, outerIndents := layout.indent :: layout.outerIndents }
  else layout

/-- The number of innermost blocks that end before a column, and the columns of those around. -/
def blocksPast (column : Int) : Int → List Int → Nat × Int × List Int
  | indent, [] => (0, indent, [])
  | indent, outer :: rest =>
      if column < indent then
        let (n, indent, outer) := blocksPast column outer rest
        (n + 1, indent, outer)
      else (0, indent, outer :: rest)

/-- Ends the blocks that are deeper than a column. -/
def closeBlocks (layout : Layout) (column : Int) : Layout :=
  if layout.inFlow then layout
  else
    let (n, indent, outerIndents) := blocksPast column layout.indent layout.outerIndents
    { layout with
      indent, outerIndents
      tokens := List.replicate n .blockEnd ++ layout.tokens
      count := layout.count + n }

/-! ## Gaps between tokens -/

/-- Skips blanks, comments and line breaks.  Tabs are blanks inside brackets, and where no key may
begin.  Outside of brackets a key may begin on a new line. -/
def skipGapFrom (inFlow : Bool) (keyAllowed inComment : Bool) (mark : Mark) :
    List Char → Bool × Cursor
  | [] => (keyAllowed, ⟨[], mark⟩)
  | c :: rest =>
      if isBreak c then skipGapFrom inFlow (keyAllowed || !inFlow) false (mark.past c) rest
      else if inComment then skipGapFrom inFlow keyAllowed true (mark.ahead 1) rest
      else if c = ' ' || (c = '\t' && (inFlow || !keyAllowed)) ||
          (c = byteOrderMark && mark.column = 0) then
        skipGapFrom inFlow keyAllowed false (mark.ahead 1) rest
      else if c = '#' then skipGapFrom inFlow keyAllowed true (mark.ahead 1) rest
      else (keyAllowed, ⟨c :: rest, mark⟩)

def skipGap (layout : Layout) : Layout :=
  let (keyAllowed, cursor) :=
    skipGapFrom layout.inFlow layout.keyAllowed false layout.cursor.mark layout.cursor.text
  { layout with keyAllowed, cursor }

/-! ## Tokens -/

/-- The end of the text, which also ends the line. -/
def atEnd? (layout : Layout) : Option Layout := do
  let mark := layout.cursor.mark
  let here : Mark := if mark.column = 0 then mark else ⟨mark.line + 1, 0⟩
  let layout := { layout with cursor := ⟨[], here⟩ }
  let layout ← (layout.closeBlocks (-1)).dropPending?
  return { layout with keyAllowed := false }.push .streamEnd

/-- A directive, or a mark at the start or the end of a document. -/
def documentSign? (layout : Layout) (sign : Option (Token × Cursor)) : Option Layout := do
  let layout ← (layout.closeBlocks (-1)).dropPending?
  let (token, cursor) ← sign
  return { layout with keyAllowed := false, cursor }.push token

/-- An opening bracket. -/
def openBracket? (layout : Layout) (token : Token) : Option Layout := do
  let layout ← layout.savePending?
  let layout := { layout with
    pending := none, outerPending := layout.pending :: layout.outerPending, keyAllowed := true }
  return (layout.skip 1).push token

/-- A closing bracket. -/
def closeBracket? (layout : Layout) (token : Token) : Option Layout := do
  let layout ← layout.dropPending?
  let layout := match layout.outerPending with
    | pending :: outerPending => { layout with pending, outerPending }
    | [] => layout
  return ({ layout with keyAllowed := false }.skip 1).push token

/-- A comma. -/
def comma? (layout : Layout) : Option Layout := do
  let layout ← layout.dropPending?
  return ({ layout with keyAllowed := true }.skip 1).push .comma

/-- The dash before an item. -/
def item? (layout : Layout) : Option Layout := do
  if !layout.inFlow && !layout.keyAllowed then none
  let layout := layout.openBlock layout.cursor.column layout.count .blockListStart
  let layout ← layout.dropPending?
  return ({ layout with keyAllowed := true }.skip 1).push .item

/-- The question mark before a key. -/
def key? (layout : Layout) : Option Layout := do
  if !layout.inFlow && !layout.keyAllowed then none
  let layout := layout.openBlock layout.cursor.column layout.count .blockTableStart
  let layout ← layout.dropPending?
  return ({ layout with keyAllowed := !layout.inFlow }.skip 1).push .key

/-- The colon before a value: it makes the pending key a key, if there is one. -/
def value? (layout : Layout) : Option Layout :=
  match layout.pending with
  | some key =>
      let layout := layout.insertAt key.position .key
      let layout := layout.openBlock key.mark.column key.position .blockTableStart
      some (({ layout with pending := none, keyAllowed := false }.skip 1).push .value)
  | none =>
      if !layout.inFlow && !layout.keyAllowed then none
      else
        let layout := layout.openBlock layout.cursor.column layout.count .blockTableStart
        some (({ layout with keyAllowed := !layout.inFlow }.skip 1).push .value)

/-- A token that may begin a key and does not end its line. -/
def nodeSign? (layout : Layout) (read : Cursor → Option (Token × Cursor)) : Option Layout := do
  let layout ← layout.savePending?
  let (token, cursor) ← read layout.cursor
  return { layout with keyAllowed := false, cursor }.push token

def anchorToken? (make : String → Token) (cursor : Cursor) : Option (Token × Cursor) :=
  (anchorName? cursor).map fun (name, cursor) => (make name, cursor)

def quotedToken? (style : Style)
    (read : Folding → Mark → List Char → Option (List Char × Cursor)) (cursor : Cursor) :
    Option (Token × Cursor) :=
  let inside := cursor.skip 1
  (read .empty inside.mark inside.text).map fun (text, cursor) =>
    (.scalar style (String.ofList text), cursor)

/-- A block scalar. -/
def block? (layout : Layout) (style : Style) : Option Layout := do
  let layout ← layout.dropPending?
  let (text, cursor) ← blockScalar? (style == .literal) layout.indent layout.cursor
  return { layout with keyAllowed := true, cursor }.push (.scalar style (String.ofList text))

/-- A plain scalar.  If it ends with a line, a key may begin after it. -/
def plain? (layout : Layout) : Option Layout := do
  let layout ← layout.savePending?
  let context : PlainContext := ⟨layout.inFlow, (layout.indent + 1).toNat⟩
  let (text, crossesLine, cursor) ←
    plainFrom context .empty false layout.cursor.mark layout.cursor.text
  return { layout with keyAllowed := crossesLine, cursor }.push
    (.scalar .plain (String.ofList text))

/-- The characters that cannot begin a plain scalar, at least not without a word after them. -/
def isIndicator (c : Char) : Bool :=
  c == '-' || c == '?' || c == ':' || isFlowSign c || c == '#' || c == '&' || c == '*' ||
    c == '!' || c == '|' || c == '>' || c == '\'' || c == '"' || c == '%' || c == '@' || c == '\x60'

/-- Whether a plain scalar begins with `c`. -/
def beginsPlain (inFlow : Bool) (c : Char) (rest : List Char) : Bool :=
  (!isGap c && !isIndicator c) ||
    (c == '-' && !rest.head?.any isBlank) ||
    (!inFlow && (c == '?' || c == ':') && !atGap rest)

/-- Reads the token that begins with `c`. -/
def token? (layout : Layout) (c : Char) (rest : List Char) : Option Layout :=
  let lineStart := layout.cursor.column = 0
  if lineStart ∧ c = '%' then layout.documentSign? (directive? layout.cursor)
  else if lineStart ∧ atDocumentMark (c :: rest) then
    layout.documentSign?
      (some (if c = '-' then .documentStart else .documentEnd, layout.cursor.skip 3))
  else match c with
    | '[' => layout.openBracket? .flowListStart
    | '\x7b' => layout.openBracket? .flowTableStart
    | ']' => layout.closeBracket? .flowListEnd
    | '\x7d' => layout.closeBracket? .flowTableEnd
    | ',' => layout.comma?
    | '*' => layout.nodeSign? (anchorToken? .alias)
    | '&' => layout.nodeSign? (anchorToken? .anchor)
    | '!' => layout.nodeSign? (tag? layout.inFlow)
    | '\'' => layout.nodeSign? (quotedToken? .singleQuoted singleQuotedFrom)
    | '"' => layout.nodeSign? (quotedToken? .doubleQuoted doubleQuotedFrom)
    | c =>
        if c = '-' ∧ atGap rest then layout.item?
        else if c = '?' ∧ (layout.inFlow ∨ atGap rest) then layout.key?
        else if c = ':' ∧ (layout.inFlow ∨ atGap rest) then layout.value?
        else if c = '|' ∧ ¬ layout.inFlow then layout.block? .literal
        else if c = '>' ∧ ¬ layout.inFlow then layout.block? .folded
        else if beginsPlain layout.inFlow c rest then layout.plain?
        else none

/-- Reads the next token, with those that the layout puts before it. -/
def next? (layout : Layout) : Option Layout := do
  let layout ← layout.skipGap.dropStale?
  let layout := layout.closeBlocks layout.cursor.column
  let layout ← match layout.cursor.text with
    | [] => layout.atEnd?
    | c :: rest => layout.token? c rest
  layout.dropStale?

/-- The tokens of what is left, in at most `steps` steps. -/
def tokensFrom (layout : Layout) : Nat → List Token
  | 0 => layout.settledTokens
  | steps + 1 => match layout.next? with
      | none => layout.settledTokens
      | some next =>
          if next.tokens.head? = some .streamEnd then next.tokens.reverse
          else next.tokensFrom steps

end Layout

/-- The tokens of a text.  Every step but the last takes at least one character. -/
def tokens (text : List Char) : List Token :=
  match prepare? text with
  | some prepared => (Layout.start prepared).tokensFrom (prepared.length + 1)
  | none => []

end StorageSurvey.Yaml
