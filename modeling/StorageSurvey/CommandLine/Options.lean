import StorageSurvey.Report.Format

/-!
# The options of the program

Options are given on the command line or, some of them, in the environment.  What is given is
checked as it is taken in, and none may be given twice in one place.
-/

namespace StorageSurvey.CommandLine

open StorageSurvey.Report

/-- Why a command line does not lead to a command. -/
inductive Stop
  | invalidSubcommand
  | missingSubcommand
  | unknownArgument
  /-- A value is missing, empty or none of those that can be chosen from. -/
  | invalidValue
  /-- A value is not a number in its range. -/
  | valueValidation
  /-- A flag is given a value. -/
  | tooManyValues
  /-- An option is given twice in one place. -/
  | argumentConflict
  /-- Nothing is given where something must be. -/
  | nothingGiven
  | help
  | version
  deriving DecidableEq, Repr

/-- Whether the program ends well. -/
def Stop.isWanted : Stop → Bool
  | help | version => true
  | _ => false

/-- An option that takes a value. -/
inductive ValuedOption
  | snapshot
  | output
  | namespaceName
  | timeoutSeconds
  | logLevel
  deriving DecidableEq, Repr

/-- An option that takes no value. -/
inductive Flag
  | kube
  | allNamespaces
  | logJson
  | showLabels
  deriving DecidableEq, Repr

/-! ## Values -/

def readPath (text : String) : Except Stop String :=
  if text = "" then .error .invalidValue else .ok text

def readFormat (text : String) : Except Stop OutputFormat :=
  match OutputFormat.named.lookup text with
  | some format => .ok format
  | none => .error .invalidValue

/-- Reads a number of 64 bits, before which a plus sign may stand. -/
def readSeconds (text : String) : Except Stop Nat :=
  let digits := match text.toList with
    | '+' :: rest => rest
    | all => all
  let number := Nat.ofDigitChars 10 digits 0
  if digits ≠ [] ∧ digits.all Char.isDigit ∧ number < UInt64.size then .ok number
  else .error .valueValidation

def readTruth (text : String) : Except Stop Bool :=
  if text = "true" then .ok true
  else if text = "false" then .ok false
  else .error .invalidValue

/-! ## What is given -/

/-- The options of the program that are given. -/
structure Options where
  /-- The file with the snapshot. -/
  snapshot : Option String
  output : Option OutputFormat
  /-- Whether pods and claims come from the orchestrator itself. -/
  kube : Option Bool
  namespaceName : Option String
  allNamespaces : Option Bool
  timeoutSeconds : Option Nat
  logLevel : Option String
  logJson : Option Bool
  deriving DecidableEq

/-- What is given in one place of the command line. -/
structure Given where
  options : Options
  showLabels : Bool
  identifiers : List String
  deriving DecidableEq

namespace Options

def none : Options :=
  ⟨.none, .none, .none, .none, .none, .none, .none, .none⟩

/-- The options of the first place, and those of the second that are not given in the first. -/
def orElse (first second : Options) : Options where
  snapshot := first.snapshot <|> second.snapshot
  output := first.output <|> second.output
  kube := first.kube <|> second.kube
  namespaceName := first.namespaceName <|> second.namespaceName
  allNamespaces := first.allNamespaces <|> second.allNamespaces
  timeoutSeconds := first.timeoutSeconds <|> second.timeoutSeconds
  logLevel := first.logLevel <|> second.logLevel
  logJson := first.logJson <|> second.logJson

/-- The value of an option that is not given yet. -/
def once {α : Type} (old : Option α) (value : Except Stop α) : Except Stop (Option α) :=
  if old.isSome then .error .argumentConflict else some <$> value

/-- The options with one more that has a value. -/
def assign (options : Options) (option : ValuedOption) (text : String) : Except Stop Options := do
  match option with
  | .snapshot => return { options with snapshot := ← once options.snapshot (readPath text) }
  | .output => return { options with output := ← once options.output (readFormat text) }
  | .namespaceName =>
      return { options with namespaceName := ← once options.namespaceName (.ok text) }
  | .timeoutSeconds =>
      return { options with timeoutSeconds := ← once options.timeoutSeconds (readSeconds text) }
  | .logLevel => return { options with logLevel := ← once options.logLevel (.ok text) }

end Options

namespace Given

def nothing : Given :=
  ⟨.none, false, []⟩

/-- What is given, with one more option that has a value. -/
def assign (given : Given) (option : ValuedOption) (text : String) : Except Stop Given := do
  return { given with options := ← given.options.assign option text }

/-- What is given, with one more flag. -/
def raise (given : Given) (flag : Flag) : Except Stop Given := do
  let options := given.options
  match flag with
  | .kube => return { given with options.kube := ← Options.once options.kube (.ok true) }
  | .allNamespaces =>
      return { given with options.allNamespaces := ← Options.once options.allNamespaces (.ok true) }
  | .logJson => return { given with options.logJson := ← Options.once options.logJson (.ok true) }
  | .showLabels =>
      if given.showLabels then .error .argumentConflict
      else return { given with showLabels := true }

def withIdentifier (given : Given) (identifier : String) : Given :=
  { given with identifiers := given.identifiers ++ [identifier] }

end Given

/-! ## The environment -/

/-- The value of every variable that is set. -/
abbrev Environment := String → Option String

/-- The value of a variable, for an option that is not given. -/
def fallback {α : Type} (given : Option α) (setting : Option String)
    (read : String → Except Stop α) : Except Stop (Option α) :=
  if given.isSome then .ok none else setting.mapM read

/-- The options that are in the environment and not among those given.  The variables of the others
are not looked at. -/
def Options.fromEnvironment (given : Options) (environment : Environment) :
    Except Stop Options := do
  let snapshot ← fallback given.snapshot (environment "STORCTL_SNAPSHOT") readPath
  let kube ← fallback given.kube (environment "STORCTL_KUBE") readTruth
  let namespaceName ← fallback given.namespaceName (environment "STORCTL_NAMESPACE") .ok
  let timeoutSeconds ←
    fallback given.timeoutSeconds (environment "STORCTL_TIMEOUT_SECS") readSeconds
  let logLevel ← fallback given.logLevel (environment "LOG_LEVEL") .ok
  let logJson ← fallback given.logJson (environment "LOG_JSON") readTruth
  return { Options.none with snapshot, kube, namespaceName, timeoutSeconds, logLevel, logJson }

end StorageSurvey.CommandLine
