import StorageSurvey.Survey.Attachment
import StorageSurvey.Survey.Volumes
import StorageSurvey.Survey.Workloads

/-!
# Claims with their volumes and pods

A claim is joined with the volume that has its volume name, and with the pods of its namespace that
use it.  Only claims whose volume is known are managed by the cluster.
-/

namespace StorageSurvey.Survey

open StorageSurvey.Inventory

/-- A claim with its volume and the names of the pods that use it. -/
structure CorrelatedClaim where
  name : String
  namespaceName : String
  volume : Volume
  podNames : List String
  deriving DecidableEq

def CorrelatedClaim.blank : CorrelatedClaim :=
  ⟨"", "", .blank, []⟩

def CorrelatedClaim.qualifiedName (claim : CorrelatedClaim) : String :=
  qualified claim.namespaceName claim.name

/-- Joins a claim with its volume and its pods. -/
def correlateOne (volumes : Volumes) (pods : Pods) (claim : Claim) :
    Except Failure CorrelatedClaim :=
  match volumes.byName? claim.volumeName with
  | some volume => .ok {
      name := claim.name
      namespaceName := claim.namespaceName
      volume
      podNames := (pods.referencingIn claim.namespaceName claim.name).map (·.qualifiedName) }
  | none => .error (.claimVolumeNotFound claim.namespaceName claim.name claim.volumeName)

/-- Joins every claim; it fails at the first claim whose volume is not known. -/
def correlate (volumes : Volumes) (pods : Pods) (claims : List Claim) :
    Except Failure (List CorrelatedClaim) :=
  claims.mapM (correlateOne volumes pods)

/-- The claims whose volume is known. -/
def managedClaims (volumes : Volumes) (claims : List Claim) : List Claim :=
  claims.filter fun claim => (volumes.byName? claim.volumeName).isSome

/-- A claim is named by itself, by the name and identifier of its volume, and by the host on which
the volume is attached, if there is such a host. -/
def claimKeys (nodes : Nodes) (claim : CorrelatedClaim) : List LookupKey :=
  let host := match nodes.attachedNode claim.volume with
    | .ok (some node) => [⟨.attachedHost, node.hostname⟩]
    | _ => []
  [⟨.claimName, claim.name⟩, ⟨.volumeName, claim.volume.name⟩, ⟨.volumeId, claim.volume.id⟩] ++ host

/-- The claims that are named by one of the identifiers. -/
def selectClaims (nodes : Nodes) (identifiers : List String) (claims : List CorrelatedClaim) :
    Selection CorrelatedClaim :=
  selectByKeys (claimKeys nodes) identifiers claims

end StorageSurvey.Survey
