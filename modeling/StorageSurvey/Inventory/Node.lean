import StorageSurvey.Inventory.Capacity
import StorageSurvey.Inventory.Labels

/-!
# Storage nodes

A node is a member of the storage cluster, with its addresses, its pools of storage, its status
and its labels.
-/

namespace StorageSurvey.Inventory

/-- A unit of storage within a node. -/
structure Pool where
  /-- The number of the pool on its node. -/
  id : UInt32
  used : UInt64
  totalSize : UInt64
  deriving DecidableEq

namespace Pool

def blank : Pool :=
  ⟨0, 0, 0⟩

def capacity (pool : Pool) : Capacity :=
  ⟨pool.used, pool.totalSize⟩

end Pool

inductive NodeStatus
  | ok
  | offline
  | maintenance
  | decommission
  | notInQuorum
  | error
  | unknown
  deriving DecidableEq

namespace NodeStatus

/-- The name of a status in documents. -/
def name : NodeStatus → String
  | ok => "Ok"
  | offline => "Offline"
  | maintenance => "Maintenance"
  | decommission => "Decommission"
  | notInQuorum => "NotInQuorum"
  | error => "Error"
  | unknown => "Unknown"

/-- The text for a status in tables. -/
def text : NodeStatus → String
  | notInQuorum => "Not in quorum"
  | status => status.name

def all : List NodeStatus :=
  [ok, offline, maintenance, decommission, notInQuorum, error, unknown]

/-- Every status under its name. -/
def named : List (String × NodeStatus) :=
  all.map fun status => (status.name, status)

end NodeStatus

/-- A member of the storage cluster. -/
structure Node where
  /-- The identifier that the cluster gave the node. -/
  id : String
  hostname : String
  managementIp : String
  dataIp : String
  /-- The name by which the scheduler of the orchestrator knows the node. -/
  schedulerName : String
  pools : List Pool
  status : NodeStatus
  labels : Labels
  /-- The version of the storage software, where it is known. -/
  version : Option String
  deriving DecidableEq

namespace Node

/-- The node of which nothing is known. -/
def blank : Node where
  id := ""
  hostname := ""
  managementIp := ""
  dataIp := ""
  schedulerName := ""
  pools := []
  status := .unknown
  labels := .empty
  version := none

/-- The capacity of all pools of a node. -/
def capacity (node : Node) : Capacity :=
  .sum (node.pools.map Pool.capacity)

end Node

end StorageSurvey.Inventory
