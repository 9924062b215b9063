import StorageSurvey.CommandLine.Place

/-!
# Reading the words in one place of a command line

The words are taken one by one until one names something below.  The value of an option is taken
in when the next thing in the same place is, or at the end of the place; until then an option waits
for its value, and whatever the word after it is, if it is not itself an option, it is that value.
-/

namespace StorageSurvey.CommandLine

/-- How far the words of a place are read. -/
structure Reading where
  given : Given
  /-- The last option that takes a value, until it is taken in, and its value once that is read. -/
  pending : Option (ValuedOption × Option String)
  /-- Whether no options can follow. -/
  trailing : Bool
  deriving DecidableEq

namespace Reading

def start : Reading :=
  ⟨.nothing, none, false⟩

/-- Whether the next word is the value of an option. -/
def awaitsValue (reading : Reading) : Bool :=
  match reading.pending with
  | some (_, none) => true
  | _ => false

/-- Takes the pending option in. -/
def settle (reading : Reading) : Except Stop Reading :=
  match reading.pending with
  | none => .ok reading
  | some (_, none) => .error .invalidValue
  | some (option, some text) => do
      return { reading with given := ← reading.given.assign option text, pending := none }

/-- Takes in an option whose value stands in the same word. -/
def assign (reading : Reading) (option : ValuedOption) (text : String) : Except Stop Reading := do
  let reading ← reading.settle
  return { reading with given := ← reading.given.assign option text }

/-- Begins to wait for the value of an option. -/
def await (reading : Reading) (option : ValuedOption) : Except Stop Reading := do
  return { ← reading.settle with pending := some (option, none) }

/-- Takes in what is asked for without a value. -/
def ask (reading : Reading) (switch : Switch) : Except Stop Reading := do
  match switch with
  | .valued option => reading.await option
  | .flag flag =>
      let reading ← reading.settle
      return { reading with given := ← reading.given.raise flag }
  | .help =>
      let _ ← reading.settle
      throw .help
  | .version =>
      let _ ← reading.settle
      throw .version

variable {α : Type} (place : Place α)

/-- Takes in an option by name. -/
def long (reading : Reading) (name : String) (value : Option String) : Except Stop Reading :=
  match place.long? name, value with
  | none, _ => .error .unknownArgument
  | some switch, none => reading.ask switch
  | some (.valued option), some text => reading.assign option text
  | some _, some _ => .error .tooManyValues

/-- Takes in options by letter; what follows the letter of an option with a value is the value,
after an equals sign or without one. -/
def letters (reading : Reading) : List Char → Except Stop Reading
  | [] => .ok reading
  | letter :: rest => match place.short? letter, rest with
      | none, _ => .error .unknownArgument
      | some (.valued option), '=' :: text => reading.assign option (String.ofList text)
      | some (.valued option), c :: text => reading.assign option (String.ofList (c :: text))
      | some switch, rest => do (← reading.ask switch).letters rest

/-- Takes in a word that is neither an option nor the value of one. -/
def argument (reading : Reading) (text : String) : Except Stop Reading :=
  if place.takesIdentifiers then do
    let reading ← reading.settle
    return { reading with given := reading.given.withIdentifier text }
  else if place.hasBelow then
    let namesBelow := (place.below? text).isSome ∨ text = "help"
    .error (if reading.trailing ∧ namesBelow then .unknownArgument else .invalidSubcommand)
  else .error .unknownArgument

/-- Takes in a word that does not name anything below. -/
def word (reading : Reading) (text : String) : Except Stop Reading :=
  if reading.trailing then reading.argument place text
  else match Token.ofText text with
    | .separator => .ok { reading with trailing := true }
    | .long name value => reading.long place name value
    | .short letters => reading.letters place letters
    | .word text => match reading.pending with
        | some (option, none) => .ok { reading with pending := some (option, some text) }
        | _ => reading.argument place text

/-- Reads words until one names something below, which is given with the words after it. -/
def scan (reading : Reading) : List String → Except Stop (Reading × Option (α × List String))
  | [] => .ok (reading, none)
  | text :: rest =>
      if reading.trailing ∨ reading.awaitsValue then do (← reading.word place text).scan rest
      else match place.below? text with
        | some below => .ok (reading, some (below, rest))
        | none =>
            if place.hasBelow ∧ text = "help" then .error (place.help rest)
            else do (← reading.word place text).scan rest

/-- What is given in a place at its end, and the options that the environment adds to it. -/
def finish (interface : Interface) (environment : Environment) (reading : Reading) :
    Except Stop (Given × Options) := do
  let given := (← reading.settle).given
  let added ←
    if interface.hasOptions then given.options.fromEnvironment environment else pure .none
  return (given, added)

/-- What becomes of a place at whose end something below is missing. -/
def withoutBelow (interface : Interface) (environment : Environment) (reading : Reading) : Stop :=
  match reading.finish interface environment with
  | .error stop => stop
  | .ok (given, added) =>
      if given.options = .none ∧ added = .none then .nothingGiven else .missingSubcommand

end Reading

end StorageSurvey.CommandLine
