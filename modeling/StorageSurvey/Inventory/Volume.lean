/-!
# Storage volumes

A volume is stored in replica sets, each of which is placed on pools of nodes, and may be attached
on a node.
-/

namespace StorageSurvey.Inventory

inductive VolumeStatus
  | up
  | down
  | degraded
  /-- The volume is present on no node. -/
  | notPresent
  | unknown
  deriving DecidableEq

namespace VolumeStatus

/-- The name of a status in documents. -/
def name : VolumeStatus → String
  | up => "Up"
  | down => "Down"
  | degraded => "Degraded"
  | notPresent => "NotPresent"
  | unknown => "Unknown"

/-- The text for a status in tables. -/
def text : VolumeStatus → String
  | up => "UP"
  | down => "DOWN"
  | degraded => "DEGRADED"
  | notPresent => "Detached"
  | unknown => "Unknown"

def all : List VolumeStatus :=
  [up, down, degraded, notPresent, unknown]

/-- Every status under its name. -/
def named : List (String × VolumeStatus) :=
  all.map fun status => (status.name, status)

end VolumeStatus

/-- The place of one copy of a replica set. -/
structure ReplicaPlacement where
  nodeId : String
  pool : UInt32
  deriving DecidableEq

/-- A group of copies of a part of a volume. -/
structure ReplicaSet where
  /-- The number of the set within its volume. -/
  id : UInt32
  placements : List ReplicaPlacement
  /-- The mark for a pending increase of copies. -/
  haIncrease : String
  /-- The nodes on which copies are being added again. -/
  reAddOn : List String
  deriving DecidableEq

structure Volume where
  id : String
  name : String
  size : UInt64
  /-- The identifier of the node on which the volume is attached; empty when it is detached. -/
  attachedOn : String
  status : VolumeStatus
  replicaSets : List ReplicaSet
  deriving DecidableEq

namespace ReplicaPlacement

def blank : ReplicaPlacement :=
  ⟨"", 0⟩

end ReplicaPlacement

namespace ReplicaSet

def blank : ReplicaSet :=
  ⟨0, [], "", []⟩

end ReplicaSet

namespace Volume

/-- The volume of which nothing is known. -/
def blank : Volume where
  id := ""
  name := ""
  size := 0
  attachedOn := ""
  status := .unknown
  replicaSets := []

end Volume

end StorageSurvey.Inventory
