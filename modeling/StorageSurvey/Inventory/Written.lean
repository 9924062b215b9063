import StorageSurvey.Document.Datum
import StorageSurvey.Inventory.Snapshot

/-!
# The written form of the records of a snapshot

Records are written with all their fields in the order of their declaration.  Only the time of
capture and the version of a node are left out where there is none.
-/

namespace StorageSurvey.Inventory

open StorageSurvey.Document

/-- An instant is written as a text. -/
def instantDatum (instant : Time.Instant) : Datum :=
  .text (String.ofList (instant.text .letter))

def Pool.toDatum (pool : Pool) : Datum :=
  .record [
    ("id", .natural pool.id.toNat),
    ("used", .natural pool.used.toNat),
    ("totalSize", .natural pool.totalSize.toNat)]

def Labels.toDatum (labels : Labels) : Datum :=
  .record (labels.entries.map fun entry => (entry.1, .text entry.2))

def Node.toDatum (node : Node) : Datum :=
  .record ([
    ("id", .text node.id),
    ("hostname", .text node.hostname),
    ("mgmtIp", .text node.managementIp),
    ("dataIp", .text node.dataIp),
    ("schedulerNodeName", .text node.schedulerName),
    ("pools", .list (node.pools.map Pool.toDatum)),
    ("status", .text node.status.name),
    ("labels", node.labels.toDatum)] ++ Datum.optionalField "version" node.version .text)

def ReplicaPlacement.toDatum (placement : ReplicaPlacement) : Datum :=
  .record [
    ("nodeId", .text placement.nodeId),
    ("pool", .natural placement.pool.toNat)]

def ReplicaSet.toDatum (set : ReplicaSet) : Datum :=
  .record [
    ("id", .natural set.id.toNat),
    ("placements", .list (set.placements.map ReplicaPlacement.toDatum)),
    ("haIncrease", .text set.haIncrease),
    ("reAddOn", .texts set.reAddOn)]

/-- The fields of a volume. -/
def Volume.fields (volume : Volume) : List (String × Datum) := [
  ("id", .text volume.id),
  ("name", .text volume.name),
  ("sizeBytes", .natural volume.size.toNat),
  ("attachedOn", .text volume.attachedOn),
  ("status", .text volume.status.name),
  ("replicaSets", .list (volume.replicaSets.map ReplicaSet.toDatum))]

def Volume.toDatum (volume : Volume) : Datum :=
  .record volume.fields

def ClaimVolume.toDatum (volume : ClaimVolume) : Datum :=
  .record [("name", .text volume.name), ("claimName", .text volume.claimName)]

def Container.toDatum (container : Container) : Datum :=
  .record [("name", .text container.name), ("claims", .texts container.claims)]

def Pod.toDatum (pod : Pod) : Datum :=
  .record [
    ("namespace", .text pod.namespaceName),
    ("name", .text pod.name),
    ("claimVolumes", .list (pod.claimVolumes.map ClaimVolume.toDatum)),
    ("containers", .list (pod.containers.map Container.toDatum))]

def Claim.toDatum (claim : Claim) : Datum :=
  .record [
    ("namespace", .text claim.namespaceName),
    ("name", .text claim.name),
    ("volumeName", .text claim.volumeName)]

def Snapshot.toDatum (snapshot : Snapshot) : Datum :=
  .record (Datum.optionalField "capturedAt" snapshot.capturedAt instantDatum ++ [
    ("nodes", .list (snapshot.nodes.map Node.toDatum)),
    ("volumes", .list (snapshot.volumes.map Volume.toDatum)),
    ("pods", .list (snapshot.pods.map Pod.toDatum)),
    ("claims", .list (snapshot.claims.map Claim.toDatum))])

end StorageSurvey.Inventory
