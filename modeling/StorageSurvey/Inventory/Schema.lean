import StorageSurvey.Document.Reader
import StorageSurvey.Inventory.Snapshot

/-!
# The records of a snapshot in documents

The fields of every record, in the order in which they are declared, with the readers of their
values.  A field that need not be there has the value of the blank record; no other field than the
time of capture and the version of a node may be null.
-/

namespace StorageSurvey.Inventory

open StorageSurvey.Document

variable {σ : Type} {m : Type → Type} [Monad m] [MonadExceptOf Fault m] (d : Dialect σ m)

def Pool.shape : Shape σ m Pool where
  name := "StoragePool"
  blank := .blank
  fields := [
    .of "id" false d.word32 fun id pool => { pool with id },
    .of "used" false d.word64 fun used pool => { pool with used },
    .of "totalSize" false d.word64 fun totalSize pool => { pool with totalSize }]

/-- Reads labels; of several values for a key the last one holds. -/
def Labels.read : Reader σ m Labels := fun path tree => do
  return .ofList (← d.textTable path tree)

def Node.shape : Shape σ m Node where
  name := "Node"
  blank := .blank
  fields := [
    .of "id" true d.text fun id node => { node with id },
    .of "hostname" false d.text fun hostname node => { node with hostname },
    .of "mgmtIp" false d.text fun managementIp node => { node with managementIp },
    .of "dataIp" false d.text fun dataIp node => { node with dataIp },
    .of "schedulerNodeName" false d.text fun schedulerName node => { node with schedulerName },
    .of "pools" false (d.list (d.record (Pool.shape d))) fun pools node => { node with pools },
    .of "status" false (d.variantOf NodeStatus.named) fun status node => { node with status },
    .of "labels" false (Labels.read d) fun labels node => { node with labels },
    .of "version" false (d.optional d.text) fun version node => { node with version }]

def ReplicaPlacement.shape : Shape σ m ReplicaPlacement where
  name := "ReplicaPlacement"
  blank := .blank
  fields := [
    .of "nodeId" true d.text fun nodeId placement => { placement with nodeId },
    .of "pool" false d.word32 fun pool placement => { placement with pool }]

def ReplicaSet.shape : Shape σ m ReplicaSet where
  name := "ReplicaSet"
  blank := .blank
  fields := [
    .of "id" true d.word32 fun id set => { set with id },
    .of "placements" false (d.list (d.record (ReplicaPlacement.shape d)))
      fun placements set => { set with placements },
    .of "haIncrease" false d.text fun haIncrease set => { set with haIncrease },
    .of "reAddOn" false (d.list d.text) fun reAddOn set => { set with reAddOn }]

def Volume.shape : Shape σ m Volume where
  name := "Volume"
  blank := .blank
  fields := [
    .of "id" true d.text fun id volume => { volume with id },
    .of "name" true d.text fun name volume => { volume with name },
    .of "sizeBytes" false d.word64 fun size volume => { volume with size },
    .of "attachedOn" false d.text fun attachedOn volume => { volume with attachedOn },
    .of "status" false (d.variantOf VolumeStatus.named) fun status volume => { volume with status },
    .of "replicaSets" false (d.list (d.record (ReplicaSet.shape d)))
      fun replicaSets volume => { volume with replicaSets }]

def ClaimVolume.shape : Shape σ m ClaimVolume where
  name := "ClaimVolume"
  blank := ⟨"", ""⟩
  fields := [
    .of "name" true d.text fun name volume => { volume with name },
    .of "claimName" true d.text fun claimName volume => { volume with claimName }]

def Container.shape : Shape σ m Container where
  name := "Container"
  blank := ⟨"", []⟩
  fields := [
    .of "name" true d.text fun name container => { container with name },
    .of "claims" false (d.list d.text) fun claims container => { container with claims }]

def Pod.shape : Shape σ m Pod where
  name := "Pod"
  blank := .empty "" ""
  fields := [
    .of "namespace" false d.text fun namespaceName pod => { pod with namespaceName },
    .of "name" true d.text fun name pod => { pod with name },
    .of "claimVolumes" false (d.list (d.record (ClaimVolume.shape d)))
      fun claimVolumes pod => { pod with claimVolumes },
    .of "containers" false (d.list (d.record (Container.shape d)))
      fun containers pod => { pod with containers }]

def Claim.shape : Shape σ m Claim where
  name := "Claim"
  blank := ⟨"", "", ""⟩
  fields := [
    .of "namespace" false d.text fun namespaceName claim => { claim with namespaceName },
    .of "name" true d.text fun name claim => { claim with name },
    .of "volumeName" true d.text fun volumeName claim => { claim with volumeName }]

def Snapshot.shape : Shape σ m Snapshot where
  name := "Snapshot"
  blank := .blank
  fields := [
    .of "capturedAt" false (d.optional d.timeStamp)
      fun capturedAt snapshot => { snapshot with capturedAt },
    .of "nodes" false (d.list (d.record (Node.shape d)))
      fun nodes snapshot => { snapshot with nodes },
    .of "volumes" false (d.list (d.record (Volume.shape d)))
      fun volumes snapshot => { snapshot with volumes },
    .of "pods" false (d.list (d.record (Pod.shape d))) fun pods snapshot => { snapshot with pods },
    .of "claims" false (d.list (d.record (Claim.shape d)))
      fun claims snapshot => { snapshot with claims }]

end StorageSurvey.Inventory
