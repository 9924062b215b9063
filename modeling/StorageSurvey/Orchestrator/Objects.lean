import StorageSurvey.Failure
import StorageSurvey.Inventory.Snapshot

/-!
# Objects of the orchestrator

The orchestrator describes pods and claims by objects with much more detail than a survey needs.
Here are the parts of them that say which claims back the volumes of a pod, which containers mount
those, and to which volume a claim is bound, and the reduction of both to inventory records.
-/

namespace StorageSurvey.Orchestrator

open StorageSurvey.Inventory

/-- Where an object is and what it is called. -/
structure Metadata where
  namespaceName : Option String
  name : Option String
  deriving DecidableEq

/-- A volume of a pod, with the claim that backs it if one does. -/
structure PodVolume where
  name : String
  claimName : Option String
  deriving DecidableEq

/-- A container with the names of the volumes that it mounts. -/
structure ContainerSpec where
  name : String
  mounts : Option (List String)
  deriving DecidableEq

structure PodSpec where
  volumes : Option (List PodVolume)
  containers : List ContainerSpec
  /-- The containers that run before the others start. -/
  initContainers : Option (List ContainerSpec)
  deriving DecidableEq

structure PodObject where
  metadata : Metadata
  spec : Option PodSpec
  deriving DecidableEq

structure ClaimObject where
  metadata : Metadata
  /-- The name of the volume to which the claim is bound, if it is bound. -/
  volumeName : Option String
  deriving DecidableEq

def Metadata.blank : Metadata :=
  ⟨none, none⟩

/-! ## Pods -/

/-- The records of the volumes that are backed by claims. -/
def PodVolume.records (volumes : List PodVolume) : List ClaimVolume :=
  volumes.filterMap fun volume => volume.claimName.map (⟨volume.name, ·⟩)

namespace PodSpec

def blank : PodSpec :=
  ⟨none, [], none⟩

/-- The containers, those that run before the others last. -/
def allContainers (spec : PodSpec) : List ContainerSpec :=
  spec.containers ++ spec.initContainers.getD []

def claimVolumes (spec : PodSpec) : List ClaimVolume :=
  PodVolume.records (spec.volumes.getD [])

/-- The claim behind a mount, which is that of the first volume with its name. -/
def claimBehind? (volumes : List ClaimVolume) (mount : String) : Option String :=
  (volumes.find? (·.name == mount)).map (·.claimName)

/-- The claims with the one behind a mount after the others, unless it is one of them. -/
def addMounted (volumes : List ClaimVolume) (claims : List String) (mount : String) :
    List String :=
  match claimBehind? volumes mount with
  | none => claims
  | some claim => if claims.contains claim then claims else claims ++ [claim]

/-- A container with the claims behind its mounts, each once. -/
def container (volumes : List ClaimVolume) (container : ContainerSpec) : Container where
  name := container.name
  claims := (container.mounts.getD []).foldl (addMounted volumes) []

end PodSpec

/-- The record of a pod; without a specification it has no volumes and no containers. -/
def PodObject.toPod (object : PodObject) : Pod :=
  let spec := object.spec.getD .blank
  { namespaceName := object.metadata.namespaceName.getD ""
    name := object.metadata.name.getD ""
    claimVolumes := spec.claimVolumes
    containers := spec.allContainers.map (PodSpec.container spec.claimVolumes) }

/-! ## Claims -/

/-- The record of a claim, unless it is not bound to a volume. -/
def ClaimObject.toClaim? (object : ClaimObject) : Option Claim :=
  match object.volumeName with
  | none => none
  | some volumeName =>
      if volumeName = "" then none
      else some ⟨object.metadata.namespaceName.getD "", object.metadata.name.getD "", volumeName⟩

/-! ## Listing -/

/-- The addresses at which the claims and the pods of a scope are listed. -/
def listingPaths (scope : Scope) : List String :=
  let place := match scope with
    | .all => "/api/v1/"
    | .only namespaceName => "/api/v1/namespaces/" ++ namespaceName ++ "/"
  [place ++ "persistentvolumeclaims", place ++ "pods"]

/-- The pods, and the claims that are bound, among the objects that were listed; a list that could
not be had is a failure. -/
def workloads (pods : Option (List PodObject)) (claims : Option (List ClaimObject)) :
    Except Failure Workloads :=
  match pods, claims with
  | some pods, some claims => .ok ⟨pods.map PodObject.toPod, claims.filterMap ClaimObject.toClaim?⟩
  | _, _ => .error .orchestrator

end StorageSurvey.Orchestrator
