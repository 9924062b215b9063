import StorageSurvey.Commands.Registry
import StorageSurvey.Report.Listing

/-!
# Listing commands

They list the nodes, volumes or claims that the identifiers name.  Volumes and claims are listed
with where the volume is attached, so a volume that is attached on an unknown node is a failure if
it is to be listed.
-/

namespace StorageSurvey.Commands

open StorageSurvey.Inventory StorageSurvey.Report StorageSurvey.Survey

def getNodes (view : View) (invocation : Invocation) : Except Failure Output :=
  let selection := view.nodes.select invocation.identifiers
  .ok {
    text := render invocation.format (nodesDatum selection.items)
      fun wide => nodesText selection.items wide invocation.showLabels
    unmatched := selection.failure? }

/-- A volume with where it is attached. -/
def summarizeVolume (view : View) (volume : Volume) : Except Failure VolumeSummary := do
  return ⟨volume, (← view.nodes.attachedState volume).text⟩

def getVolumes (view : View) (invocation : Invocation) : Except Failure Output := do
  let selection := view.volumes.select invocation.identifiers
  let volumes ← selection.items.mapM (summarizeVolume view)
  return {
    text := render invocation.format (volumesDatum volumes) fun _ => volumesText volumes
    unmatched := selection.failure? }

/-- A claim with where its volume is attached. -/
def summarizeClaim (view : View) (claim : CorrelatedClaim) : Except Failure ClaimSummary := do
  return ⟨claim, (← view.nodes.attachedState claim.volume).text⟩

def getClaims (view : View) (invocation : Invocation) : Except Failure Output := do
  let selection ← view.selectClaims invocation.identifiers
  let claims ← selection.items.mapM (summarizeClaim view)
  return {
    text := render invocation.format (claimsDatum claims) fun _ => claimsText claims
    unmatched := selection.failure? }

end StorageSurvey.Commands
