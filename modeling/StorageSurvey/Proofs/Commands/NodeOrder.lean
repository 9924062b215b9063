import StorageSurvey.Commands.Builtin
import StorageSurvey.Proofs.Survey.Defects

/-!
# The order of the nodes

What is said of a volume or a claim names nodes: the one on which the volume is attached, and those
on which its copies are placed.  The volume names them by identifier, and the commands look them up
by identifier alone.  So any two views whose nodes are found under the same identifiers answer
alike, and the order of the nodes makes no difference as long as their identifiers are distinct,
even where host names, addresses or scheduler names are shared.
-/

namespace StorageSurvey.Commands

open StorageSurvey.Inventory StorageSurvey.Report StorageSurvey.Survey

/-! ## Nodes that are found under the same identifiers -/

section

variable {first second : Nodes} (h : first.byId? = second.byId?)

include h

theorem attachedNode_congr : first.attachedNode = second.attachedNode := by
  unfold Nodes.attachedNode
  rw [h]

theorem attachedState_congr : first.attachedState = second.attachedState := by
  unfold Nodes.attachedState
  rw [attachedNode_congr h]

theorem replicationInfo_congr : first.replicationInfo = second.replicationInfo := by
  unfold Nodes.replicationInfo Nodes.replicaSetInfo Nodes.placementInfo
  rw [h]

theorem claimKeys_congr : claimKeys first = claimKeys second := by
  unfold claimKeys
  rw [attachedNode_congr h]

end

/-! ## Views of such nodes -/

/-- Whether two views differ only in when they were captured and in how nodes are found by anything
else than their identifiers. -/
structure SameById (first second : View) : Prop where
  nodes : first.nodes.byId? = second.nodes.byId?
  volumes : first.volumes = second.volumes
  pods : first.pods = second.pods
  claims : first.claims = second.claims

namespace SameById

variable {first second : View} (h : SameById first second)

include h

theorem selectClaims_eq : first.selectClaims = second.selectClaims := by
  unfold View.selectClaims Survey.selectClaims
  rw [claimKeys_congr h.nodes, h.volumes, h.pods, h.claims]

theorem getVolumes_eq : getVolumes first = getVolumes second := by
  unfold getVolumes summarizeVolume
  rw [attachedState_congr h.nodes, h.volumes]

theorem getClaims_eq : getClaims first = getClaims second := by
  unfold getClaims summarizeClaim
  rw [attachedState_congr h.nodes, h.selectClaims_eq]

theorem describeVolumes_eq : describeVolumes first = describeVolumes second := by
  unfold describeVolumes describeVolume podsUsing
  rw [attachedState_congr h.nodes, replicationInfo_congr h.nodes, h.volumes, h.pods, h.claims]

theorem describeClaims_eq : describeClaims first = describeClaims second := by
  unfold describeClaims describeClaim containersOf
  rw [attachedState_congr h.nodes, h.selectClaims_eq, h.pods]

end SameById

/-- Nodes with distinct identifiers are found under them in any order. -/
theorem sameById_of_perm {snapshot : Snapshot} {nodes : List Node}
    (hdistinct : (snapshot.nodes.map Node.id).Nodup) (hperm : snapshot.nodes.Perm nodes) :
    SameById (.ofSnapshot { snapshot with nodes }) (.ofSnapshot snapshot) where
  nodes := by
    funext id
    exact (byId?_ofList nodes id).trans
      ((congrFun (lastWith?_perm hperm hdistinct).symm id).trans
        (byId?_ofList snapshot.nodes id).symm)
  volumes := rfl
  pods := rfl
  claims := rfl

/-- If the identifiers of the nodes are distinct, the commands on volumes and claims answer in the
same way whatever the order of the nodes is. -/
theorem answers_of_perm {snapshot : Snapshot} {nodes : List Node}
    (hdistinct : (snapshot.nodes.map Node.id).Nodup) (hperm : snapshot.nodes.Perm nodes)
    (invocation : Invocation) :
    let original := View.ofSnapshot snapshot
    let reordered := View.ofSnapshot { snapshot with nodes }
    getVolumes reordered invocation = getVolumes original invocation ∧
      getClaims reordered invocation = getClaims original invocation ∧
      describeVolumes reordered invocation = describeVolumes original invocation ∧
      describeClaims reordered invocation = describeClaims original invocation := by
  have hsame := sameById_of_perm hdistinct hperm
  exact ⟨congrFun hsame.getVolumes_eq _, congrFun hsame.getClaims_eq _,
    congrFun hsame.describeVolumes_eq _, congrFun hsame.describeClaims_eq _⟩

/-- Two nodes under one host name, one address and one scheduler name, of which one holds a volume
that is attached on the other. -/
def sharedHost : Snapshot where
  capturedAt := none
  nodes := [
    { Node.blank with id := "n1", hostname := "h", managementIp := "ip", schedulerName := "s" },
    { Node.blank with id := "n2", hostname := "h", managementIp := "ip", schedulerName := "s" }]
  volumes := [{ Volume.blank with
    id := "1", name := "v", attachedOn := "n1", replicaSets := [⟨0, [⟨"n2", 0⟩], "", []⟩] }]
  pods := []
  claims := [⟨"default", "c", "v"⟩]

/-- Which of the nodes has the host name does depend on their order, but no answer does. -/
theorem sharedHost_reordered :
    let reordered := { sharedHost with nodes := sharedHost.nodes.reverse }
    ((View.ofSnapshot sharedHost).nodes.find? "h").map Node.id = some "n2" ∧
      ((View.ofSnapshot reordered).nodes.find? "h").map Node.id = some "n1" ∧
      describeVolumes (.ofSnapshot reordered) ⟨.wide, [], false⟩ =
        describeVolumes (.ofSnapshot sharedHost) ⟨.wide, [], false⟩ ∧
      getClaims (.ofSnapshot reordered) ⟨.yaml, ["h", "x"], false⟩ =
        getClaims (.ofSnapshot sharedHost) ⟨.yaml, ["h", "x"], false⟩ := by
  have hdistinct : (sharedHost.nodes.map Node.id).Nodup := by decide
  have hperm : sharedHost.nodes.Perm sharedHost.nodes.reverse := sharedHost.nodes.reverse_perm.symm
  obtain ⟨-, -, hdescribe, -⟩ := answers_of_perm hdistinct hperm ⟨.wide, [], false⟩
  obtain ⟨-, hget, -, -⟩ := answers_of_perm hdistinct hperm ⟨.yaml, ["h", "x"], false⟩
  exact ⟨by decide, by decide, hdescribe, hget⟩

end StorageSurvey.Commands
