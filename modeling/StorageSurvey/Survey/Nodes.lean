import StorageSurvey.Survey.Catalog
import StorageSurvey.Survey.Selection

/-!
# The nodes of a cluster

Nodes are found by identifier, and by host name, address and scheduler name through their positions
among the nodes that the catalog keeps.
-/

namespace StorageSurvey.Survey

open StorageSurvey.Inventory

/-- The nodes of a cluster with the indexes over them. -/
structure Nodes where
  catalog : Catalog Node.id
  byHostname : Index (Fin catalog.records.length)
  byManagementIp : Index (Fin catalog.records.length)
  bySchedulerName : Index (Fin catalog.records.length)

namespace Nodes

def ofList (nodes : List Node) : Nodes :=
  let catalog : Catalog Node.id := .ofList nodes
  { catalog
    byHostname := catalog.positions Node.hostname
    byManagementIp := catalog.positions Node.managementIp
    bySchedulerName := catalog.positions Node.schedulerName }

/-- The nodes in the order in which their identifiers were first seen. -/
def all (nodes : Nodes) : List Node :=
  nodes.catalog.records

def byId? (nodes : Nodes) (id : String) : Option Node :=
  nodes.catalog.find? id

def byHostname? (nodes : Nodes) (name : String) : Option Node :=
  nodes.catalog.findIn? nodes.byHostname name

def byManagementIp? (nodes : Nodes) (address : String) : Option Node :=
  nodes.catalog.findIn? nodes.byManagementIp address

def bySchedulerName? (nodes : Nodes) (name : String) : Option Node :=
  nodes.catalog.findIn? nodes.bySchedulerName name

/-- The node with this identifier, else host name, else address, else scheduler name. -/
def find? (nodes : Nodes) (key : String) : Option Node :=
  if key = "" then none
  else nodes.byId? key <|> nodes.byHostname? key <|> nodes.byManagementIp? key <|>
    nodes.bySchedulerName? key

/-- The capacity of all nodes. -/
def capacity (nodes : Nodes) : Capacity :=
  .sum (nodes.all.map Node.capacity)

def select (nodes : Nodes) (identifiers : List String) : Selection Node :=
  selectByKeys nodeKeys identifiers nodes.all

end Nodes

end StorageSurvey.Survey
