import StorageSurvey.CommandLine.Request
import StorageSurvey.Commands.Builtin
import StorageSurvey.Sources.Directory
import StorageSurvey.Sources.Load

/-!
# A run of the program

A run reads the command line, loads the snapshot and answers the command.  What is answered is
printed before it is reported that an identifier matches nothing; a failure prints no answer.
-/

namespace StorageSurvey.Program

open StorageSurvey.CommandLine StorageSurvey.Commands StorageSurvey.Sources StorageSurvey.Survey

/-- The name and the version of the program. -/
def versionText : String :=
  "storctl 0.2.0"

/-- The interface of the program. -/
def interface : Interface :=
  ⟨.builtin, true⟩

/-- How a run ends. -/
inductive Ending
  /-- The command line does not lead to a command. -/
  | stopped (stop : Stop)
  | failed (failure : Failure)
  /-- The snapshot cannot be loaded from the file at this path. -/
  | notLoaded (path : String) (failure : Failure)
  | answered (output : Output)

/-- What a command answers on a snapshot. -/
def dispatch (request : Request) (snapshot : Inventory.Snapshot) : Except Failure Output :=
  request.command.action (.ofSnapshot snapshot) request.invocation

/-- How a run ends that has an answer or none. -/
def Ending.ofAnswer : Except Failure Output → Ending
  | .error failure => .failed failure
  | .ok output => .answered output

/-- How a run ends that has a request and what is in the file with the snapshot. -/
def respond (request : Request) (settings : SourceSettings) (contents : FileContents)
    (surroundings : Surroundings := .offline) : Ending :=
  match loadSnapshot settings contents surroundings with
  | .error failure => .notLoaded settings.path failure
  | .ok snapshot => .ofAnswer (dispatch request snapshot)

/-- Runs the program with a way to read files. -/
def run {m : Type → Type} [Monad m] (readFile : String → m FileContents)
    (environment : Environment) (words : List String)
    (surroundings : Surroundings := .offline) : m Ending := do
  match Request.read interface environment words with
  | .error stop => return .stopped stop
  | .ok request =>
    match request.settings.source with
    | .error failure => return .failed failure
    | .ok settings => return respond request settings (← readFile settings.path) surroundings

/-- Runs the program on the files of a directory. -/
def runIn (directory : Directory) (environment : Environment) (words : List String)
    (surroundings : Surroundings := .offline) : Ending :=
  Id.run (run (fun path => pure (directory.read path)) environment words surroundings)

/-! ## What is printed -/

/-- A text as it is printed: without blanks at its end, with a line end. -/
def printed (text : String) : String :=
  String.ofList (Text.trimEnd text.toList) ++ "\n"

/-- The text of a failure, without where in a document it is. -/
def failureText (failure : Failure) : String :=
  failure.message?.getD ""

/-- The text of what is behind a failure to load a snapshot. -/
def causeText? : Failure → Option String
  | .file fault => some fault.message
  | .document format (.contents path cause) => some (Document.contentsMessage format path cause)
  | _ => none

namespace Ending

/-- The status with which the program exits. -/
def exitStatus : Ending → Nat
  | stopped stop => if stop.isWanted then 0 else 2
  | failed _ | notLoaded _ _ => 1
  | answered output => if output.unmatched.isSome then 1 else 0

/-- What the program prints; there is nothing for a text that explains how to use it. -/
def standardOutput? : Ending → Option String
  | stopped .version => some (printed versionText)
  | stopped _ => none
  | failed _ | notLoaded _ _ => some ""
  | answered output => some (printed output.text)

/-- What the program reports as its error. -/
def errorText? : Ending → Option String
  | stopped _ => none
  | failed failure => some s!"Error: {failureText failure}\n"
  | notLoaded path failure =>
      let causes := match causeText? failure with
        | some cause => s!"    0: {failureText failure}\n    1: {cause}\n"
        | none => s!"    {failureText failure}\n"
      some s!"Error: loading inventory from {path}\n\nCaused by:\n{causes}"
  | answered output => output.unmatched.map fun failure => s!"Error: {failureText failure}\n"

end Ending

/-- One thing that the program writes. -/
inductive Effect
  /-- A text on the standard output. -/
  | print (text : String)
  /-- A text on the standard error. -/
  | report (text : String)
  deriving DecidableEq, Repr

/-- What the program writes at its end, in this order: what is answered comes before the error. -/
def Ending.effects (ending : Ending) : List Effect :=
  (ending.standardOutput?.filter (· ≠ "")).toList.map .print ++
    ending.errorText?.toList.map .report

end StorageSurvey.Program
