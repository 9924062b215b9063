import StorageSurvey.Program.Run

/-!
# The program

Runs with the arguments, the environment and the files of the machine.  From here there is no way
to an orchestrator.
-/

namespace StorageSurvey.Program

open StorageSurvey.CommandLine StorageSurvey.Sources

/-- How the program is used. -/
def usageText : String :=
  "Usage: storctl [OPTIONS] <get|describe> <COMMAND> [IDENTIFIERS]...\n"

/-- The settings of the environment that have a meaning. -/
def variableNames : List String :=
  ["STORCTL_SNAPSHOT", "STORCTL_KUBE", "STORCTL_NAMESPACE", "STORCTL_TIMEOUT_SECS", "LOG_LEVEL",
    "LOG_JSON"]

/-- Reads a file as a text. -/
def readFile (path : String) : IO FileContents := do
  try
    match String.fromUTF8? (← IO.FS.readBinFile path) with
    | some text => return .ok text
    | none => return .error .notText
  catch
    | .inappropriateType _ code _ =>
        return .error (if code = 20 then .notADirectory else .isADirectory)
    | _ => return .error .notFound

end StorageSurvey.Program

open StorageSurvey.Program

def main (arguments : List String) : IO UInt32 := do
  let settings ← variableNames.mapM fun name => return (name, ← IO.getEnv name)
  let ending ← run readFile (fun name => (settings.lookup name).join) arguments
  let output ← IO.getStdout
  let errors ← IO.getStderr
  if ending.standardOutput?.isNone then
    (if ending.exitStatus = 0 then output else errors).putStr usageText
  for effect in ending.effects do
    match effect with
    | .print text => output.putStr text
    | .report text => errors.putStr text
  return ending.exitStatus.toUInt32
