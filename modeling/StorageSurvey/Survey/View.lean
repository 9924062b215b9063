import StorageSurvey.Inventory.Snapshot
import StorageSurvey.Survey.Correlation
import StorageSurvey.Survey.Replication

/-!
# The view of a cluster

A view holds the catalogs and indexes over one snapshot; every answer is worked out from them.
-/

namespace StorageSurvey.Survey

open StorageSurvey.Inventory

/-- A snapshot with its records found by their keys. -/
structure View where
  capturedAt : Option Time.Instant
  nodes : Nodes
  volumes : Volumes
  pods : Pods
  claims : Claims

namespace View

def ofSnapshot (snapshot : Snapshot) : View where
  capturedAt := snapshot.capturedAt
  nodes := .ofList snapshot.nodes
  volumes := .ofList snapshot.volumes
  pods := .ofList snapshot.pods
  claims := .ofList snapshot.claims

/-- The claims of the cluster's own volumes that are named by one of the identifiers. -/
def selectClaims (view : View) (identifiers : List String) :
    Except Failure (Selection CorrelatedClaim) := do
  let managed := managedClaims view.volumes view.claims.all
  let correlated ← correlate view.volumes view.pods managed
  return Survey.selectClaims view.nodes identifiers correlated

end View

end StorageSurvey.Survey
