import StorageSurvey.CommandLine.Options
import StorageSurvey.CommandLine.Token
import StorageSurvey.Commands.Registry

/-!
# The places of a command line

A command line names a group, a command of it, and then what the command is about.  In each of the
three places it can name what is below, give the options that are known there, and ask for help.
The options of the program are known everywhere.
-/

namespace StorageSurvey.CommandLine

open StorageSurvey.Commands

/-- What the name of an option asks for. -/
inductive Switch
  | valued (option : ValuedOption)
  | flag (flag : Flag)
  | help
  | version
  deriving DecidableEq, Repr

/-- The commands of a program, and whether it has the options of the program and a version. -/
structure Interface where
  registry : Registry
  hasOptions : Bool

/-- What can stand in a place of the command line. -/
structure Place (α : Type) where
  /-- What a word names below this place. -/
  below? : String → Option α
  /-- Whether there is anything below this place. -/
  hasBelow : Bool
  /-- What comes of asking for help about the words that follow. -/
  help : List String → Stop
  long? : String → Option Switch
  short? : Char → Option Switch
  takesIdentifiers : Bool

/-! ## Options -/

/-- The options of the program by name. -/
def programOption? (name : String) : Option Switch :=
  match name with
  | "snapshot" => some (.valued .snapshot)
  | "output" => some (.valued .output)
  | "kube" => some (.flag .kube)
  | "namespace" => some (.valued .namespaceName)
  | "all-namespaces" => some (.flag .allNamespaces)
  | "timeout-secs" => some (.valued .timeoutSeconds)
  | "log-level" => some (.valued .logLevel)
  | "log-json" => some (.flag .logJson)
  | _ => none

/-- The options of the program by letter. -/
def programLetter? (letter : Char) : Option Switch :=
  match letter with
  | 's' => some (.valued .snapshot)
  | 'o' => some (.valued .output)
  | 'n' => some (.valued .namespaceName)
  | 'A' => some (.flag .allNamespaces)
  | _ => none

namespace Interface

/-- The options by name that are known everywhere. -/
def long? (interface : Interface) (name : String) : Option Switch :=
  if name = "help" then some .help
  else if interface.hasOptions then programOption? name
  else none

/-- The options by letter that are known everywhere. -/
def short? (interface : Interface) (letter : Char) : Option Switch :=
  if letter = 'h' then some .help
  else if interface.hasOptions then programLetter? letter
  else none

/-! ## The three places -/

/-- What a command is about. -/
def commandPlace (interface : Interface) (command : Command) : Place Empty where
  below? _ := none
  hasBelow := false
  help
    | [] => .help
    | _ => .invalidSubcommand
  long? name :=
    if name = "show-labels" ∧ command.parameters.showLabels then some (.flag .showLabels)
    else interface.long? name
  short? := interface.short?
  takesIdentifiers := command.parameters.identifiers

/-- The commands of a group. -/
def groupPlace (interface : Interface) (group : String) : Place Command where
  below? name := interface.registry.find? group name
  hasBelow := !(interface.registry.commandsOf group).isEmpty
  help
    | [] => .help
    | name :: rest => match interface.registry.find? group name with
        | some command => (interface.commandPlace command).help rest
        | none =>
            let asksForItself := name = "help" ∧ rest = [] ∧
              !(interface.registry.commandsOf group).isEmpty
            if asksForItself then .help else .invalidSubcommand
  long? := interface.long?
  short? := interface.short?
  takesIdentifiers := false

/-- The groups. -/
def groupsPlace (interface : Interface) : Place String where
  below? name := interface.registry.groups.find? (· == name)
  hasBelow := !interface.registry.groups.isEmpty
  help
    | [] => .help
    | name :: rest =>
        if name ∈ interface.registry.groups then (interface.groupPlace name).help rest
        else if name = "help" ∧ rest = [] then .help
        else .invalidSubcommand
  long? name :=
    if name = "version" ∧ interface.hasOptions then some .version else interface.long? name
  short? letter :=
    if letter = 'V' ∧ interface.hasOptions then some .version else interface.short? letter
  takesIdentifiers := false

end Interface

end StorageSurvey.CommandLine
