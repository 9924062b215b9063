import StorageSurvey.Report.Format
import StorageSurvey.Survey.View

/-!
# Commands and their registry

A command belongs to a group and answers to its name and its aliases.  The registry takes a group
once, takes commands only into groups that it has, and lets no two commands of a group answer to
one name.  What is asked of it changes it in place, so there is a registry afterwards whether or not
it took what it was asked to take.
-/

namespace StorageSurvey.Commands

open StorageSurvey.Report StorageSurvey.Survey

/-- What a command is asked for. -/
structure Invocation where
  format : OutputFormat
  /-- Names, identifiers or host names; without any, everything is meant. -/
  identifiers : List String
  showLabels : Bool
  deriving DecidableEq

/-- What a command answers. -/
structure Output where
  text : String
  /-- The failure for the first identifier that nothing matches. -/
  unmatched : Option Failure

/-- What a command can be given besides the options of the program. -/
structure Parameters where
  identifiers : Bool
  showLabels : Bool
  deriving DecidableEq

/-- A command of a group. -/
structure Command where
  group : String
  name : String
  aliases : List String
  parameters : Parameters
  action : View → Invocation → Except Failure Output

namespace Command

/-- The names to which a command answers. -/
def names (command : Command) : List String :=
  command.name :: command.aliases

def answersTo (command : Command) (name : String) : Bool :=
  command.names.contains name

end Command

/-- The groups of commands and the commands in them. -/
structure Registry where
  groups : List String
  commands : List Command

/-- What comes of asking a registry to take something. -/
structure Registered where
  /-- The registry as it is afterwards. -/
  registry : Registry
  result : Except Failure Unit

/-- Whoever goes on only after a success goes on with the registry. -/
instance : Coe Registered (Except Failure Registry) where
  coe registered := registered.result.map fun _ => registered.registry

namespace Registry

def empty : Registry :=
  ⟨[], []⟩

/-- Takes a group. -/
def addGroup (registry : Registry) (group : String) : Registered :=
  if registry.groups.contains group then
    ⟨registry, .error (.configuration (.groupTwice group))⟩
  else ⟨{ registry with groups := registry.groups ++ [group] }, .ok ()⟩

/-- The command of a group that answers to a name. -/
def find? (registry : Registry) (group name : String) : Option Command :=
  registry.commands.find? fun command => command.group == group && command.answersTo name

/-- The first name of a command to which another command of its group answers. -/
def clash? (registry : Registry) (command : Command) : Option String :=
  command.names.find? fun name => (registry.find? command.group name).isSome

/-- Takes a command into its group. -/
def register (registry : Registry) (command : Command) : Registered :=
  if !registry.groups.contains command.group then
    ⟨registry, .error (.configuration (.unknownGroup command.name command.group))⟩
  else match registry.clash? command with
    | some name => ⟨registry, .error (.configuration (.commandTwice command.group name))⟩
    | none => ⟨{ registry with commands := registry.commands ++ [command] }, .ok ()⟩

/-- The commands of a group. -/
def commandsOf (registry : Registry) (group : String) : List Command :=
  registry.commands.filter (·.group == group)

end Registry

end StorageSurvey.Commands
