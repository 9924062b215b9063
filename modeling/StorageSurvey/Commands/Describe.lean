import StorageSurvey.Commands.Registry
import StorageSurvey.Report.Description

/-!
# Describing commands

They describe the volumes or claims that the identifiers name, or the cluster.  A volume is
described with the claims that are bound to it and the pods that use those, a claim with the
containers that mount it.
-/

namespace StorageSurvey.Commands

open StorageSurvey.Inventory StorageSurvey.Report StorageSurvey.Survey

/-- The names of the pods that use one of the claims, each once. -/
def podsUsing (view : View) (claims : List Claim) : List String :=
  (claims.flatMap fun claim =>
    (view.pods.referencingIn claim.namespaceName claim.name).map (·.qualifiedName)).eraseDups

def describeVolume (view : View) (volume : Volume) : Except Failure VolumeDescription := do
  let bound := view.claims.boundTo volume
  return {
    volume
    state := (← view.nodes.attachedState volume).text
    replication := ← view.nodes.replicationInfo volume
    claims := bound.map (·.qualifiedName)
    pods := podsUsing view bound }

def describeVolumes (view : View) (invocation : Invocation) : Except Failure Output := do
  let selection := view.volumes.select invocation.identifiers
  let descriptions ← selection.items.mapM (describeVolume view)
  return {
    text := render invocation.format (.list (descriptions.map (·.toDatum)))
      fun _ => blocks (descriptions.map (·.text))
    unmatched := selection.failure? }

/-- The containers that mount a claim, in the pods of its namespace. -/
def containersOf (view : View) (claim : CorrelatedClaim) : List String :=
  let mounting := (view.pods.containersMounting claim.name).filter fun mounting =>
    claim.namespaceName = "" || mounting.pod.namespaceName == claim.namespaceName
  mounting.map fun mounting => mounting.pod.qualifiedName ++ ": " ++ mounting.container

def describeClaim (view : View) (claim : CorrelatedClaim) : Except Failure ClaimDescription := do
  return {
    claim
    state := (← view.nodes.attachedState claim.volume).text
    containers := containersOf view claim }

def describeClaims (view : View) (invocation : Invocation) : Except Failure Output := do
  let selection ← view.selectClaims invocation.identifiers
  let descriptions ← selection.items.mapM (describeClaim view)
  return {
    text := render invocation.format (.list (descriptions.map (·.toDatum)))
      fun _ => blocks (descriptions.map (·.text))
    unmatched := selection.failure? }

def describeCluster (view : View) (invocation : Invocation) : Except Failure Output :=
  let description := ClusterDescription.ofNodes view.capturedAt view.nodes
  .ok {
    text := render invocation.format description.toDatum fun _ => description.text
    unmatched := none }

end StorageSurvey.Commands
