import StorageSurvey.Inventory.ByteSize
import StorageSurvey.Report.Format
import StorageSurvey.Survey.Exchange
import StorageSurvey.Survey.View

/-!
# Descriptions of volumes, claims and the cluster

A description is a block of lines, each a label and a value, with a table or a list where there is
more to say.
-/

namespace StorageSurvey.Report

open StorageSurvey.Document StorageSurvey.Inventory StorageSurvey.Survey

/-- The column in which the values of a description begin. -/
def valueColumn : Nat := 16

/-- A line with a label and a value. -/
def fieldLine (label value : String) : String :=
  let blanks := List.replicate (valueColumn - (label.length + 1)) ' '
  label ++ ":" ++ String.ofList blanks ++ value ++ "\n"

/-- The blocks with an empty line between them, if there are any. -/
def blocks (texts : List String) : String :=
  if texts.isEmpty then noResources else String.intercalate "\n" texts

/-! ## Volumes -/

/-- A volume with its topology, and the claims and pods that use it. -/
structure VolumeDescription where
  volume : Volume
  /-- The text for where the volume is attached. -/
  state : String
  replication : ReplicationInfo
  claims : List String
  pods : List String

/-- The cells of a replica set in a table of these. -/
def replicaSetRow (set : ReplicaSetInfo) : List String := [
  toString set.id,
  joinOrNone set.nodeInfo,
  if set.haIncrease = "" then "-" else set.haIncrease,
  joinOrNone set.reAddOn]

def replicaSetTable (sets : List ReplicaSetInfo) : Text.Columns :=
  tableOf ["Set", "Nodes", "HA Increase", "Re-add On"] replicaSetRow sets

namespace VolumeDescription

def text (description : VolumeDescription) : String :=
  let sets := description.replication.replicaSets
  fieldLine "Name" description.volume.name ++
  fieldLine "Id" description.volume.id ++
  fieldLine "Size" (ByteSize.text description.volume.size) ++
  fieldLine "Status" description.replication.status ++
  fieldLine "State" description.state ++
  fieldLine "Claims" (joinOrNone description.claims) ++
  fieldLine "Pods" (joinOrNone description.pods) ++
  if sets.isEmpty then fieldLine "Replica Sets" "<none>"
  else "Replica Sets:\n" ++ (replicaSetTable sets).text ++ "\n"

def toDatum (description : VolumeDescription) : Datum :=
  .record (description.volume.fields ++ [
    ("state", .text description.state),
    ("replication", description.replication.toDatum),
    ("claims", .texts description.claims),
    ("pods", .texts description.pods)])

end VolumeDescription

/-! ## Claims -/

/-- A claim with the containers that mount it. -/
structure ClaimDescription where
  claim : CorrelatedClaim
  /-- The text for where the volume of the claim is attached. -/
  state : String
  containers : List String

namespace ClaimDescription

def text (description : ClaimDescription) : String :=
  let volume := description.claim.volume
  fieldLine "Name" description.claim.name ++
  fieldLine "Namespace" description.claim.namespaceName ++
  fieldLine "Volume" (volume.name ++ " (" ++ volume.id ++ ")") ++
  fieldLine "Size" (ByteSize.text volume.size) ++
  fieldLine "Status" volume.status.text ++
  fieldLine "State" description.state ++
  fieldLine "Pods" (joinOrNone description.claim.podNames) ++
  if description.containers.isEmpty then fieldLine "Containers" "<none>"
  else "Containers:\n" ++
    String.join (description.containers.map fun container => "  " ++ container ++ "\n")

def toDatum (description : ClaimDescription) : Datum :=
  .record (description.claim.fields ++ [
    ("state", .text description.state),
    ("containers", .texts description.containers)])

end ClaimDescription

/-! ## The cluster -/

/-- A node with its capacity. -/
structure NodeCapacity where
  hostname : String
  status : NodeStatus
  capacity : Capacity

/-- The capacity of a cluster and of each of its nodes. -/
structure ClusterDescription where
  capturedAt : Option Time.Instant
  nodes : List NodeCapacity
  capacity : Capacity

def NodeCapacity.row (node : NodeCapacity) : List String := [
  node.hostname,
  node.status.text,
  ByteSize.gibText node.capacity.used,
  ByteSize.gibText node.capacity.total]

def nodeCapacityTable (nodes : List NodeCapacity) : Text.Columns :=
  tableOf ["Hostname", "Status", "Used (GiB)", "Capacity (GiB)"] NodeCapacity.row nodes

def NodeCapacity.toDatum (node : NodeCapacity) : Datum :=
  .record [
    ("hostname", .text node.hostname),
    ("status", .text node.status.name),
    ("used", .natural node.capacity.used.toNat),
    ("capacity", .natural node.capacity.total.toNat)]

namespace ClusterDescription

def ofNodes (capturedAt : Option Time.Instant) (nodes : Nodes) : ClusterDescription where
  capturedAt
  nodes := nodes.all.map fun node => ⟨node.hostname, node.status, node.capacity⟩
  capacity := nodes.capacity

def text (description : ClusterDescription) : String :=
  let captured := match description.capturedAt with
    | some instant => String.ofList (instant.text .offset)
    | none => "-"
  fieldLine "Captured At" captured ++
  fieldLine "Nodes" (toString description.nodes.length) ++
  (if description.nodes.isEmpty then ""
    else (nodeCapacityTable description.nodes).text ++ "\n") ++
  fieldLine "Used (GiB)" (ByteSize.gibText description.capacity.used) ++
  fieldLine "Capacity (GiB)" (ByteSize.gibText description.capacity.total)

def toDatum (description : ClusterDescription) : Datum :=
  .record [
    ("capturedAt", (description.capturedAt.map instantDatum).getD .null),
    ("nodes", .list (description.nodes.map NodeCapacity.toDatum)),
    ("used", .natural description.capacity.used.toNat),
    ("capacity", .natural description.capacity.total.toNat)]

end ClusterDescription

end StorageSurvey.Report
