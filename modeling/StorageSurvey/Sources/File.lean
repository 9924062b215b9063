import StorageSurvey.Inventory.SnapshotText
import StorageSurvey.Sources.Fetch

/-!
# Snapshots in files

A file holds a whole snapshot.  It is a source of all of it, and can serve as the source of either
half.
-/

namespace StorageSurvey.Sources

open StorageSurvey.Inventory

/-- What reading a file as a text gives. -/
abbrev FileContents := Except FileFault String

/-- The snapshot in a file. -/
def snapshotOfFile (path : String) (contents : FileContents) : Except Failure Snapshot := do
  let text ← contents.mapError .file
  Snapshot.read (formatOfPath path) text

/-! ## Files as sources -/

/-- The name of the source that is a file. -/
def fileSourceName (path : String) : String :=
  "snapshot file " ++ path

/-- A file as the source of a whole snapshot. -/
def snapshotFromFile (path : String) (delay : Time.Duration) (contents : FileContents) :
    Source Snapshot where
  name := fileSourceName path
  delay
  result := snapshotOfFile path contents

/-- A file as the source of nodes and volumes. -/
def storageFromFile (path : String) (delay : Time.Duration) (contents : FileContents) :
    Source StorageInventory where
  name := fileSourceName path
  delay
  result := do return (← snapshotOfFile path contents).storage

/-- A file as the source of the pods and claims of a scope. -/
def workloadsFromFile (path : String) (delay : Time.Duration) (scope : Scope)
    (contents : FileContents) : Source Workloads where
  name := fileSourceName path
  delay
  result := do return (← snapshotOfFile path contents).workloads.within scope

end StorageSurvey.Sources
