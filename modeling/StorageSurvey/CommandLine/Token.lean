/-!
# The words of a command line

Words that begin with a hyphen name options: after one hyphen there are letters, each naming an
option, and after two there is one name, with a value after an equals sign.  Two hyphens alone end
the options, and a single hyphen is an ordinary word.
-/

namespace StorageSurvey.CommandLine

/-- What a word of the command line is by its form. -/
inductive Token
  /-- The sign that no options follow. -/
  | separator
  | long (name : String) (value : Option String)
  | short (letters : List Char)
  | word (text : String)
  deriving DecidableEq, Repr

/-- The option name and the value in what follows two hyphens. -/
def Token.ofLong (text : List Char) : Token :=
  let name := text.takeWhile (· ≠ '=')
  let value := match text.drop name.length with
    | _ :: value => some (String.ofList value)
    | [] => none
  .long (String.ofList name) value

def Token.ofText (text : String) : Token :=
  match text.toList with
  | ['-', '-'] => .separator
  | '-' :: '-' :: rest => .ofLong rest
  | '-' :: letter :: rest => .short (letter :: rest)
  | _ => .word text

end StorageSurvey.CommandLine
