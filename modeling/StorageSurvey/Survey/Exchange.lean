import StorageSurvey.Inventory.Schema
import StorageSurvey.Inventory.Written
import StorageSurvey.Survey.Correlation
import StorageSurvey.Survey.Replication

/-!
# The exchange form of survey results

The fields by which correlated claims and topologies are read from documents and written to them.
All of them are required.
-/

namespace StorageSurvey.Survey

open StorageSurvey.Document StorageSurvey.Inventory

variable {σ : Type} {m : Type → Type} [Monad m] [MonadExceptOf Fault m] (d : Dialect σ m)

/-! ## Topologies -/

def ReplicaSetInfo.shape : Shape σ m ReplicaSetInfo where
  name := "ReplicaSetInfo"
  blank := .blank
  fields := [
    .of "Id" true d.word32 fun id info => { info with id },
    .of "NodeInfo" true (d.list d.text) fun nodeInfo info => { info with nodeInfo },
    .of "HaIncrease" true d.text fun haIncrease info => { info with haIncrease },
    .of "ReAddOn" true (d.list d.text) fun reAddOn info => { info with reAddOn }]

def ReplicationInfo.shape : Shape σ m ReplicationInfo where
  name := "ReplicationInfo"
  blank := .blank
  fields := [
    .of "Rsi" true (d.list (d.record (ReplicaSetInfo.shape d)))
      fun replicaSets info => { info with replicaSets },
    .of "Status" true d.text fun status info => { info with status }]

def ReplicaSetInfo.toDatum (info : ReplicaSetInfo) : Datum :=
  .record [
    ("Id", .natural info.id.toNat),
    ("NodeInfo", .texts info.nodeInfo),
    ("HaIncrease", .text info.haIncrease),
    ("ReAddOn", .texts info.reAddOn)]

def ReplicationInfo.toDatum (info : ReplicationInfo) : Datum :=
  .record [
    ("Rsi", .list (info.replicaSets.map ReplicaSetInfo.toDatum)),
    ("Status", .text info.status)]

/-! ## Correlated claims -/

def CorrelatedClaim.shape : Shape σ m CorrelatedClaim where
  name := "CorrelatedClaim"
  blank := .blank
  fields := [
    .of "name" true d.text fun name claim => { claim with name },
    .of "namespace" true d.text fun namespaceName claim => { claim with namespaceName },
    .of "volume" true (d.record (Volume.shape d)) fun volume claim => { claim with volume },
    .of "podNames" true (d.list d.text) fun podNames claim => { claim with podNames }]

/-- The fields of a correlated claim. -/
def CorrelatedClaim.fields (claim : CorrelatedClaim) : List (String × Datum) := [
  ("name", .text claim.name),
  ("namespace", .text claim.namespaceName),
  ("volume", claim.volume.toDatum),
  ("podNames", .texts claim.podNames)]

def CorrelatedClaim.toDatum (claim : CorrelatedClaim) : Datum :=
  .record claim.fields

end StorageSurvey.Survey
