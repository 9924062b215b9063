/-!
# Workloads of the orchestrator

A pod declares volumes that are backed by claims, and its containers mount them.  A claim is bound
to a storage volume by the name of the volume.
-/

namespace StorageSurvey.Inventory

/-- The name of something in a namespace. -/
def qualified (namespaceName name : String) : String :=
  namespaceName ++ "/" ++ name

/-- A volume of a pod that is backed by a claim. -/
structure ClaimVolume where
  /-- The name of the volume within the pod. -/
  name : String
  claimName : String
  deriving DecidableEq

/-- A container of a pod, with the names of the claims that it mounts. -/
structure Container where
  name : String
  claims : List String
  deriving DecidableEq

structure Pod where
  namespaceName : String
  name : String
  claimVolumes : List ClaimVolume
  containers : List Container
  deriving DecidableEq

/-- A claim for storage, bound to a volume. -/
structure Claim where
  namespaceName : String
  name : String
  /-- The name of the volume to which the claim is bound. -/
  volumeName : String
  deriving DecidableEq

namespace Container

/-- Mounts `claim` in the first of the containers that has this name, or in a new container after
the others. -/
def mount (container claim : String) : List Container → List Container
  | [] => [⟨container, [claim]⟩]
  | first :: rest =>
      if first.name = container then ⟨first.name, first.claims ++ [claim]⟩ :: rest
      else first :: mount container claim rest

end Container

namespace Pod

/-- A pod without volumes and containers. -/
def empty (namespaceName name : String) : Pod :=
  ⟨namespaceName, name, [], []⟩

def qualifiedName (pod : Pod) : String :=
  qualified pod.namespaceName pod.name

/-- Whether a volume of the pod is backed by the claim. -/
def references (pod : Pod) (claim : String) : Bool :=
  pod.claimVolumes.any (·.claimName == claim)

theorem references_iff {pod : Pod} {claim : String} :
    pod.references claim = true ↔ ∃ volume ∈ pod.claimVolumes, volume.claimName = claim := by
  simp only [references, List.any_eq_true, beq_iff_eq]

/-- Declares a volume for `claim`, unless one is declared, and mounts it in `container`. -/
def withClaim (pod : Pod) (container claim : String) : Pod where
  namespaceName := pod.namespaceName
  name := pod.name
  claimVolumes :=
    if pod.references claim then pod.claimVolumes
    else pod.claimVolumes ++ [⟨claim ++ "-vol", claim⟩]
  containers := Container.mount container claim pod.containers

end Pod

namespace Claim

def qualifiedName (claim : Claim) : String :=
  qualified claim.namespaceName claim.name

end Claim

end StorageSurvey.Inventory
