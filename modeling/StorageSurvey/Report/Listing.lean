import StorageSurvey.Inventory.ByteSize
import StorageSurvey.Report.Format
import StorageSurvey.Survey.Exchange

/-!
# Lists of nodes, volumes and claims

A list is a table with a row for each item.  In data notation an item is its record, to which
volumes and claims add where the volume is attached.
-/

namespace StorageSurvey.Report

open StorageSurvey.Document StorageSurvey.Inventory StorageSurvey.Survey

/-! ## Nodes -/

def labelsText (labels : Labels) : String :=
  joinOrNone (labels.entries.map fun entry => entry.1 ++ "=" ++ entry.2)

/-- The headers of a table of nodes, some of which only a wide table has. -/
def nodeHeader (wide showLabels : Bool) : List String :=
  (if wide then ["Id"] else []) ++
  ["Hostname"] ++
  (if wide then ["IP", "Data IP"] else []) ++
  ["Version", "SchedulerNodeName", "Used", "Capacity"] ++
  (if wide then ["# Pools"] else []) ++
  ["Status"] ++
  if showLabels then ["Labels"] else []

/-- The cells of a node in such a table. -/
def nodeRow (wide showLabels : Bool) (node : Node) : List String :=
  let capacity := node.capacity
  (if wide then [node.id] else []) ++
  [node.hostname] ++
  (if wide then [node.managementIp, node.dataIp] else []) ++
  [node.version.getD "-", node.schedulerName, ByteSize.text capacity.used,
    ByteSize.text capacity.total] ++
  (if wide then [toString node.pools.length] else []) ++
  [node.status.text] ++
  if showLabels then [labelsText node.labels] else []

def nodesText (nodes : List Node) (wide showLabels : Bool) : String :=
  listing (nodeHeader wide showLabels) (nodeRow wide showLabels) nodes

def nodesDatum (nodes : List Node) : Datum :=
  .list (nodes.map Node.toDatum)

/-! ## Volumes -/

/-- A volume with the text for where it is attached. -/
structure VolumeSummary where
  volume : Volume
  state : String

def VolumeSummary.row (summary : VolumeSummary) : List String := [
  summary.volume.id,
  summary.volume.name,
  ByteSize.text summary.volume.size,
  summary.volume.status.text,
  summary.state,
  toString summary.volume.replicaSets.length]

def volumesText (volumes : List VolumeSummary) : String :=
  listing ["Id", "Name", "Size", "Status", "State", "Replicas"] VolumeSummary.row volumes

def VolumeSummary.toDatum (summary : VolumeSummary) : Datum :=
  .record (summary.volume.fields ++ [("state", .text summary.state)])

def volumesDatum (volumes : List VolumeSummary) : Datum :=
  .list (volumes.map VolumeSummary.toDatum)

/-! ## Claims -/

/-- A claim with the text for where its volume is attached. -/
structure ClaimSummary where
  claim : CorrelatedClaim
  state : String

def ClaimSummary.row (summary : ClaimSummary) : List String := [
  summary.claim.name,
  summary.claim.namespaceName,
  summary.claim.volume.name,
  summary.state,
  joinOrNone summary.claim.podNames]

def claimsText (claims : List ClaimSummary) : String :=
  listing ["Name", "Namespace", "Volume", "State", "Pods"] ClaimSummary.row claims

def ClaimSummary.toDatum (summary : ClaimSummary) : Datum :=
  .record (summary.claim.fields ++ [("state", .text summary.state)])

def claimsDatum (claims : List ClaimSummary) : Datum :=
  .list (claims.map ClaimSummary.toDatum)

end StorageSurvey.Report
