import StorageSurvey.Inventory.Node
import StorageSurvey.Inventory.Volume
import StorageSurvey.Inventory.Workload
import StorageSurvey.Time.Instant

/-!
# Snapshots

A snapshot holds what was known of a cluster at one time: one half comes from the storage control
plane, the other from the orchestrator.
-/

namespace StorageSurvey.Inventory

/-- What the storage control plane knows. -/
structure StorageInventory where
  nodes : List Node
  volumes : List Volume
  deriving DecidableEq

/-- What the orchestrator knows. -/
structure Workloads where
  pods : List Pod
  claims : List Claim
  deriving DecidableEq

structure Snapshot where
  capturedAt : Option Time.Instant
  nodes : List Node
  volumes : List Volume
  pods : List Pod
  claims : List Claim
  deriving DecidableEq

namespace Snapshot

def blank : Snapshot :=
  ⟨none, [], [], [], []⟩

/-- The snapshot made of the two halves at a time. -/
def assemble (capturedAt : Time.Instant) (storage : StorageInventory) (workloads : Workloads) :
    Snapshot where
  capturedAt := some capturedAt
  nodes := storage.nodes
  volumes := storage.volumes
  pods := workloads.pods
  claims := workloads.claims

def storage (snapshot : Snapshot) : StorageInventory :=
  ⟨snapshot.nodes, snapshot.volumes⟩

def workloads (snapshot : Snapshot) : Workloads :=
  ⟨snapshot.pods, snapshot.claims⟩

end Snapshot

/-- The namespaces whose pods and claims are wanted. -/
inductive Scope
  | all
  | only (namespaceName : String)
  deriving DecidableEq

namespace Scope

def contains : Scope → String → Bool
  | all, _ => true
  | only wanted, namespaceName => wanted == namespaceName

def text : Scope → String
  | all => "all namespaces"
  | only namespaceName => "namespace " ++ namespaceName

end Scope

/-- The pods and claims within a scope. -/
def Workloads.within (workloads : Workloads) (scope : Scope) : Workloads where
  pods := workloads.pods.filter fun pod => scope.contains pod.namespaceName
  claims := workloads.claims.filter fun claim => scope.contains claim.namespaceName

/-- The snapshot with only the pods and claims within a scope. -/
def Snapshot.within (snapshot : Snapshot) (scope : Scope) : Snapshot :=
  let inside := snapshot.workloads.within scope
  { snapshot with pods := inside.pods, claims := inside.claims }

end StorageSurvey.Inventory
