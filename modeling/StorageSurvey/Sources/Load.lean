import StorageSurvey.CommandLine.Request
import StorageSurvey.Sources.File

/-!
# Loading snapshots

The settings of a run name a file.  It holds the whole snapshot, which is cut down to a scope,
unless the pods and claims are to come from the orchestrator itself: then that is connected to
first, and both halves of the snapshot are fetched at once.  None of these steps may take longer
than the settings allow.
-/

namespace StorageSurvey.Sources

open StorageSurvey.CommandLine StorageSurvey.Inventory StorageSurvey.Time

/-- What there is once the orchestrator is connected to. -/
structure Connection where
  /-- The pods and claims of a scope. -/
  workloads : Scope → Source Workloads
  /-- When both halves of a snapshot are there. -/
  capturedAt : Instant

/-- What a load depends on besides what is in the file. -/
structure Surroundings where
  /-- How long it takes to read the file. -/
  reading : Duration
  /-- How long it takes to connect to the orchestrator. -/
  connecting : Duration
  orchestrator : Except Failure Connection

namespace Surroundings

/-- Nothing takes time, and there is no way to the orchestrator. -/
def offline : Surroundings where
  reading := .ofSeconds 0
  connecting := .ofSeconds 0
  orchestrator := .error .orchestrator

def connection (surroundings : Surroundings) : Source Connection where
  name := "kubernetes client"
  delay := surroundings.connecting
  result := surroundings.orchestrator

end Surroundings

/-- The snapshot that the settings ask for. -/
def loadSnapshot (settings : SourceSettings) (contents : FileContents)
    (surroundings : Surroundings := .offline) : Except Failure Snapshot := do
  if settings.kube then
    let connection ← surroundings.connection.verdict settings.timeout
    let storage := storageFromFile settings.path surroundings.reading contents
    let workloads := connection.workloads settings.scope
    (fetchSnapshot settings.timeout storage workloads connection.capturedAt).result
  else
    let file := snapshotFromFile settings.path surroundings.reading contents
    return (← file.verdict settings.timeout).within settings.scope

end StorageSurvey.Sources
