import StorageSurvey.Document.Fault
import StorageSurvey.Time.Duration

/-!
# Failures

Everything that can keep the program from an answer, as causes.  The wording is in
`Failure.message`, and `Failure.kind` sorts failures into five broad kinds.
-/

namespace StorageSurvey

open StorageSurvey.Document

/-- What is wrong with the settings or the commands of the program. -/
inductive Misconfiguration
  | zeroTimeout
  | emptyNamespace
  | noCommand
  | groupTwice (group : String)
  | unknownGroup (command group : String)
  | commandTwice (group command : String)
  | other (text : String)
  deriving DecidableEq, Repr

def Misconfiguration.message : Misconfiguration → String
  | zeroTimeout => "timeout must be at least one second"
  | emptyNamespace => "namespace must not be empty; use --all-namespaces"
  | noCommand => "no command selected"
  | groupTwice group => s!"command group {group} registered twice"
  | unknownGroup command group => s!"command {command} registered under unknown group {group}"
  | commandTwice group command => s!"command {group} {command} registered twice"
  | other text => text

/-- Why a file cannot be read as a text. -/
inductive FileFault
  | notFound
  | notADirectory
  | isADirectory
  | notText
  deriving DecidableEq, Repr

def FileFault.message : FileFault → String
  | notFound => "No such file or directory (os error 2)"
  | notADirectory => "Not a directory (os error 20)"
  | isADirectory => "Is a directory (os error 21)"
  | notText => "stream did not contain valid UTF-8"

/-- Why there is no answer. -/
inductive Failure
  | configuration (cause : Misconfiguration)
  | nodeNotFound (nodeId : String)
  | volumeNotFound (identifier : String)
  | claimVolumeNotFound (namespaceName claim volume : String)
  /-- The volume with this name is attached on a node that is not known. -/
  | danglingAttachment (volume nodeId : String)
  /-- A copy of the volume with this name is placed on a node that is not known. -/
  | danglingReplica (volume : String) (replicaSet : UInt32) (nodeId : String)
  | noMatch (identifier : String)
  | timeout (source : String) (after : Time.Duration)
  /-- The interface of the orchestrator gave no answer. -/
  | orchestrator
  | document (format : DataFormat) (fault : Fault)
  | file (fault : FileFault)
  deriving DecidableEq, Repr

namespace Failure

inductive Kind
  | notFound
  | inconsistent
  | noMatch
  | source
  | configuration
  deriving DecidableEq, Repr

def kind : Failure → Kind
  | nodeNotFound _ | volumeNotFound _ | claimVolumeNotFound _ _ _ => .notFound
  | danglingAttachment _ _ | danglingReplica _ _ _ => .inconsistent
  | noMatch _ => .noMatch
  | configuration _ => .configuration
  | timeout _ _ | orchestrator | document _ _ | file _ => .source

/-- The name of a data format in messages. -/
private def formatName : DataFormat → String
  | .json => "JSON"
  | .yaml => "YAML"

/-- The text for a failure.  There is none where its wording is that of another program: the
interface of the orchestrator, or the grammar of a data format. -/
def message? : Failure → Option String
  | configuration cause => some s!"Configuration error: {cause.message}"
  | nodeNotFound nodeId => some s!"Node not found: {nodeId}"
  | volumeNotFound identifier => some s!"Volume not found: {identifier}"
  | claimVolumeNotFound namespaceName claim volume =>
      some s!"Volume {volume} bound to claim {namespaceName}/{claim} not found"
  | danglingAttachment volume nodeId =>
      some s!"Volume {volume} is attached to unknown node {nodeId}"
  | danglingReplica volume replicaSet nodeId =>
      some s!"Replica set {replicaSet} of volume {volume} is placed on unknown node {nodeId}"
  | noMatch identifier => some s!"No resources found matching {identifier}"
  | timeout source after => some s!"Timed out fetching {source} after {after.text}"
  | orchestrator => none
  | document _ .grammar => none
  | document format (.contents path cause) =>
      some s!"{formatName format} error: {contentsMessage format path cause}"
  | file fault => some s!"IO error: {fault.message}"

end Failure

end StorageSurvey
