/-!
# Tokens of YAML

The signs of a YAML text.  Where lists and tables are written by indentation, tokens stand for
their starts and ends as if they were in brackets.
-/

namespace StorageSurvey.Yaml

/-- The ways to write a scalar. -/
inductive Style
  | plain
  | singleQuoted
  | doubleQuoted
  | literal
  | folded
  deriving DecidableEq, Repr

inductive Token
  | streamEnd
  | version (major minor : Nat)
  /-- The declaration of what a tag handle stands for. -/
  | tagHandle (handle expansion : String)
  | documentStart
  | documentEnd
  | blockListStart
  | blockTableStart
  | blockEnd
  | flowListStart
  | flowListEnd
  | flowTableStart
  | flowTableEnd
  /-- The dash before an item. -/
  | item
  /-- The comma between items in brackets. -/
  | comma
  | key
  | value
  | alias (name : String)
  | anchor (name : String)
  | tag (handle suffix : String)
  | scalar (style : Style) (text : String)
  deriving DecidableEq, Repr

end StorageSurvey.Yaml
