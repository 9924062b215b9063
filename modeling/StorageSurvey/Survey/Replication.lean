import StorageSurvey.Survey.Attachment
import StorageSurvey.Survey.Volumes

/-!
# Where the copies of a volume are placed

The topology of a volume lists its replica sets with the nodes and pools that hold the copies.
Every placement must name a known node.  The status is the one that the volume itself has; it does
not follow from the placements.
-/

namespace StorageSurvey.Survey

open StorageSurvey.Inventory

/-- A replica set with its nodes by name. -/
structure ReplicaSetInfo where
  id : UInt32
  /-- The host name and the pool of each placement. -/
  nodeInfo : List String
  haIncrease : String
  reAddOn : List String
  deriving DecidableEq, Repr

/-- The topology of a volume. -/
structure ReplicationInfo where
  replicaSets : List ReplicaSetInfo
  /-- The text for the status of the volume. -/
  status : String
  deriving DecidableEq, Repr

def ReplicaSetInfo.blank : ReplicaSetInfo :=
  ⟨0, [], "", []⟩

def ReplicationInfo.blank : ReplicationInfo :=
  ⟨[], ""⟩

namespace Nodes

/-- The host name and the pool of a placement in a replica set of a volume. -/
def placementInfo (nodes : Nodes) (volume : Volume) (set : ReplicaSet)
    (placement : ReplicaPlacement) : Except Failure String :=
  match nodes.byId? placement.nodeId with
  | some node => .ok s!"{node.hostname} (Pool {placement.pool})"
  | none => .error (.danglingReplica volume.name set.id placement.nodeId)

def replicaSetInfo (nodes : Nodes) (volume : Volume) (set : ReplicaSet) :
    Except Failure ReplicaSetInfo := do
  let nodeInfo ← set.placements.mapM (nodes.placementInfo volume set)
  return ⟨set.id, nodeInfo, set.haIncrease, set.reAddOn⟩

/-- The topology of a volume; it fails at the first placement on a node that is not known. -/
def replicationInfo (nodes : Nodes) (volume : Volume) : Except Failure ReplicationInfo := do
  return ⟨← volume.replicaSets.mapM (nodes.replicaSetInfo volume), volume.status.text⟩

/-- The topology of the volume with this identifier or name. -/
def replicationInfoFor (nodes : Nodes) (volumes : Volumes) (identifier : String) :
    Except Failure ReplicationInfo :=
  match volumes.find? identifier with
  | some volume => nodes.replicationInfo volume
  | none => .error (.volumeNotFound identifier)

end Nodes

/-- The identifiers of nodes that a volume names: where it is attached, then where its copies
are placed. -/
def namedNodes (volume : Volume) : List String :=
  (if volume.attachedOn = "" then [] else [volume.attachedOn]) ++
    volume.replicaSets.flatMap fun set => set.placements.map (·.nodeId)

/-- The identifiers of nodes that the volumes name, each once, in the order of first mention. -/
def referencedNodes (volumes : List Volume) : List String :=
  (volumes.flatMap namedNodes).eraseDups

end StorageSurvey.Survey
