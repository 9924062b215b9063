import StorageSurvey.Inventory.Volume
import StorageSurvey.Inventory.Workload
import StorageSurvey.Survey.Index

/-!
# The pods and claims of a cluster

Pods are found by the claims that back their volumes, claims by the volume to which they are bound.
Both are found by their positions in the lists, so that two equal pods are two pods.  A claim
without a namespace stands for the claims of that name in every namespace.
-/

namespace StorageSurvey.Survey

open StorageSurvey.Inventory

/-- The pods of a cluster. -/
structure Pods where
  all : List Pod
  /-- The positions of the pods in ascending order, under the names of the claims that they
  reference. -/
  byClaim : Index (List (Fin all.length))

/-- A container of a pod. -/
structure PodContainer where
  pod : Pod
  container : String
  deriving DecidableEq

namespace Pods

def ofList (pods : List Pod) : Pods :=
  ⟨pods, .groupByKeys (fun position => (pods.get position).claimVolumes.map (·.claimName))
    (List.finRange pods.length)⟩

/-- The pods with a volume that is backed by a claim of this name. -/
def referencing (pods : Pods) (claim : String) : List Pod :=
  (pods.byClaim.group claim).map pods.all.get

/-- The pods in a namespace with a volume that is backed by a claim of this name; the empty
namespace stands for all of them. -/
def referencingIn (pods : Pods) (namespaceName claim : String) : List Pod :=
  (pods.referencing claim).filter fun pod =>
    namespaceName = "" || pod.namespaceName == namespaceName

/-- The containers that mount a claim of this name, in the pods that reference it. -/
def containersMounting (pods : Pods) (claim : String) : List PodContainer :=
  (pods.referencing claim).flatMap fun pod =>
    (pod.containers.filter fun container => container.claims.contains claim).map
      fun container => ⟨pod, container.name⟩

end Pods

/-- The claims of a cluster. -/
structure Claims where
  all : List Claim
  /-- The positions of the claims, under the names of their volumes. -/
  byVolume : Index (List (Fin all.length))

namespace Claims

def ofList (claims : List Claim) : Claims :=
  ⟨claims, .groupByKey (fun position => (claims.get position).volumeName)
    (List.finRange claims.length)⟩

/-- The claims bound to a volume of this volume's name. -/
def boundTo (claims : Claims) (volume : Volume) : List Claim :=
  (claims.byVolume.group volume.name).map claims.all.get

end Claims

end StorageSurvey.Survey
