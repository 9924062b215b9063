import StorageSurvey.CommandLine.Reading
import StorageSurvey.Failure
import StorageSurvey.Inventory.Snapshot

/-!
# Requests

A command line that names a command, with everything that it gives, is a request.  An option that
is given in several places has its value from the innermost of them; one that is given in none has
it from the environment or else by default.
-/

namespace StorageSurvey.CommandLine

open StorageSurvey.Commands StorageSurvey.Inventory StorageSurvey.Report

/-- The options of the program with all their values. -/
structure Settings where
  snapshot : String
  output : OutputFormat
  kube : Bool
  namespaceName : String
  allNamespaces : Bool
  timeoutSeconds : Nat
  logLevel : String
  logJson : Bool
  deriving DecidableEq

/-- The values of the options, which have defaults where they are not given. -/
def Options.settings (options : Options) : Settings where
  snapshot := options.snapshot.getD "snapshot.yaml"
  output := options.output.getD .table
  kube := options.kube.getD false
  namespaceName := options.namespaceName.getD "default"
  allNamespaces := options.allNamespaces.getD false
  timeoutSeconds := options.timeoutSeconds.getD 30
  logLevel := options.logLevel.getD "warn"
  logJson := options.logJson.getD false

/-- A command with its settings and what it is about. -/
structure Request where
  settings : Settings
  command : Command
  identifiers : List String
  showLabels : Bool

namespace Request

/-- Reads the words of a command line. -/
def read (interface : Interface) (environment : Environment) (words : List String) :
    Except Stop Request := do
  match ← Reading.start.scan interface.groupsPlace words with
  | (groups, none) => throw (groups.withoutBelow interface environment)
  | (groups, some (group, words)) =>
    match ← Reading.start.scan (interface.groupPlace group) words with
    | (commands, none) => throw (commands.withoutBelow interface environment)
    | (commands, some (command, words)) =>
      let (arguments, _) ← Reading.start.scan (interface.commandPlace command) words
      let (inner, _) ← arguments.finish interface environment
      let (middle, _) ← commands.finish interface environment
      let (outer, added) ← groups.finish interface environment
      let options := inner.options.orElse (middle.options.orElse (outer.options.orElse added))
      return ⟨options.settings, command, inner.identifiers, inner.showLabels⟩

def invocation (request : Request) : Invocation :=
  ⟨request.settings.output, request.identifiers, request.showLabels⟩

end Request

/-! ## Sources -/

/-- Where a snapshot comes from. -/
structure SourceSettings where
  /-- The file with the snapshot. -/
  path : String
  /-- Whether pods and claims come from the orchestrator itself. -/
  kube : Bool
  scope : Scope
  timeout : Time.Duration
  deriving DecidableEq

/-- The source that the settings name. -/
def Settings.source (settings : Settings) : Except Failure SourceSettings :=
  if settings.timeoutSeconds = 0 then .error (.configuration .zeroTimeout)
  else if !settings.allNamespaces && settings.namespaceName = "" then
    .error (.configuration .emptyNamespace)
  else .ok {
    path := settings.snapshot
    kube := settings.kube
    scope := if settings.allNamespaces then .all else .only settings.namespaceName
    timeout := .ofSeconds settings.timeoutSeconds }

end StorageSurvey.CommandLine
