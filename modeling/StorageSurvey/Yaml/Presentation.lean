import StorageSurvey.Yaml.Plain
import StorageSurvey.Yaml.Token

/-!
# How a text is written in YAML

A text that holds a line feed is written as a literal block where its lines survive that.  Another
text is written plainly if it then stands for itself, in single quotes if it would not, and in
double quotes if it holds characters that must be escaped.
-/

namespace StorageSurvey.Yaml

/-- The characters that end a line for the writer. -/
def endsLine (c : Char) : Bool :=
  c == '\n' || c == '\r' || c == '\u0085' || c == '\u2028' || c == '\u2029'

/-- The characters that are written as they are. -/
def isPrintable (c : Char) : Bool :=
  let n := c.toNat
  n == 0x0A || (0x20 ≤ n && n ≤ 0x7E) || (0xA0 ≤ n && n ≤ 0xD7FF) ||
    (0xE000 ≤ n && n ≤ 0xFFFD && n != 0xFEFF) || 0x10000 ≤ n

/-- The signs that never begin a plain scalar. -/
def isLeadingSign (c : Char) : Bool :=
  c == '#' || c == ',' || c == '[' || c == ']' || c == '\x7b' || c == '\x7d' || c == '&' ||
    c == '*' || c == '!' || c == '|' || c == '>' || c == '\'' || c == '"' || c == '%' || c == '@' ||
    c == '\x60'

/-- Whether nothing or a space is next. -/
def atSpace : List Char → Bool
  | [] => true
  | c :: _ => c == ' '

/-- Whether a text holds a sign that would end it as a plain scalar: a colon before a space or at
the end, or a hash after a space. -/
def hasInnerSign : List Char → Bool
  | [] => false
  | ':' :: rest => atSpace rest || hasInnerSign rest
  | ' ' :: '#' :: _ => true
  | _ :: rest => hasInnerSign rest

/-- Whether a text begins with a sign that does not begin a plain scalar. -/
def hasLeadingSign : List Char → Bool
  | '-' :: '-' :: '-' :: _ => true
  | '.' :: '.' :: '.' :: _ => true
  | c :: rest => isLeadingSign c || ((c == '-' || c == '?') && atSpace rest)
  | [] => false

/-- Whether a text stands for itself as a plain scalar in a block. -/
def allowsPlain (text : List Char) : Bool :=
  text.all (fun c => isPrintable c && !endsLine c) && text.head? != some ' ' &&
    text.getLast? != some ' ' && !hasLeadingSign text && !hasInnerSign text

/-- Whether a space follows a line end. -/
def hasSpaceAfterBreak : List Char → Bool
  | c :: ' ' :: rest => endsLine c || hasSpaceAfterBreak (' ' :: rest)
  | _ :: rest => hasSpaceAfterBreak rest
  | [] => false

/-- Whether a line end follows a space. -/
def hasSpaceBeforeBreak : List Char → Bool
  | ' ' :: c :: rest => endsLine c || hasSpaceBeforeBreak (c :: rest)
  | _ :: rest => hasSpaceBeforeBreak rest
  | [] => false

/-- Whether a text survives single quotes. -/
def allowsSingleQuotes (text : List Char) : Bool :=
  text.all isPrintable && !hasSpaceAfterBreak text && !hasSpaceBeforeBreak text

/-- Whether a text survives as a literal block. -/
def allowsLiteral (text : List Char) : Bool :=
  text.all isPrintable && !hasSpaceBeforeBreak text && text.getLast? != some ' '

/-- Whether a plain scalar with this text would be read as something else than a text, or begins
with zeros as no number does. -/
def looksOtherwise (text : String) : Bool :=
  plain text != .text || hasLeadingZero text.toList

/-- The style in which a text is written. -/
def styleOf (text : String) : Style :=
  let chars := text.toList
  if chars.contains '\n' then
    if allowsLiteral chars then .literal else .doubleQuoted
  else if !looksOtherwise text && allowsPlain chars then .plain
  else if allowsSingleQuotes chars then .singleQuoted
  else .doubleQuoted

end StorageSurvey.Yaml
