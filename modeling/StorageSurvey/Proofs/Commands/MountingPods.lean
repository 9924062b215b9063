import StorageSurvey.Proofs.Commands.ShownClaims

/-!
# The pods and containers of a claim

The pods that reference a claim are looked up by position.  What is found is what a pass over all
pods finds, and so are the pods of a namespace and the containers that mount the claim.

The description of a claim names its pods and its containers, and comes to them by different ways:
the pods were looked up when the claim was joined, the containers are looked up when it is
described.  Both ways lead to the same pods, so that every container belongs to a pod that is named.
-/

namespace StorageSurvey.Commands

open StorageSurvey.Inventory StorageSurvey.Report StorageSurvey.Survey

/-- Whether the pods of a claim and these texts for its containers are what a pass over all pods
finds: the pods of its namespace that reference the claim, and the containers of these that mount
it, each under the name of its pod. -/
structure ListsContainers (pods : List Pod) (claim : CorrelatedClaim) (lines : List String) :
    Prop where
  podNames : claim.podNames =
    (podsMounting pods claim.namespaceName claim.name).map fun pod =>
      pod.namespaceName ++ "/" ++ pod.name
  lines_eq : lines =
    (podsMounting pods claim.namespaceName claim.name).flatMap fun pod =>
      (pod.containers.filter fun container => container.claims.contains claim.name).map
        fun container => pod.namespaceName ++ "/" ++ pod.name ++ ": " ++ container.name
  belongs : ∀ line ∈ lines, ∃ podName ∈ claim.podNames,
    ∃ container, line = podName ++ ": " ++ container

/-- A claim that was joined has the pods that a pass over all pods finds. -/
theorem podNames_of_mem_joinedClaims {snapshot : Snapshot} {claim : CorrelatedClaim}
    (h : claim ∈ joinedClaims snapshot) :
    claim.podNames =
      (podsMounting snapshot.pods claim.namespaceName claim.name).map fun pod =>
        pod.namespaceName ++ "/" ++ pod.name := by
  obtain ⟨source, -, hjoined⟩ := List.mem_filterMap.mp h
  obtain ⟨volume, -, rfl⟩ := Option.map_eq_some_iff.mp hjoined
  rfl

theorem listsContainers_containerLines {snapshot : Snapshot} {claim : CorrelatedClaim}
    (h : claim ∈ joinedClaims snapshot) :
    ListsContainers snapshot.pods claim (containerLines snapshot claim) where
  podNames := podNames_of_mem_joinedClaims h
  lines_eq := rfl
  belongs := by
    intro line hline
    obtain ⟨pod, hpod, hline⟩ := List.mem_flatMap.mp hline
    obtain ⟨container, -, rfl⟩ := List.mem_map.mp hline
    refine ⟨pod.namespaceName ++ "/" ++ pod.name, ?_, container.name, rfl⟩
    rw [podNames_of_mem_joinedClaims h]
    exact List.mem_map_of_mem hpod

/-- The pods and containers of a claim are those that a pass over all pods finds, each position in
the list once.  So what is described of the claims that are selected has a line for each container
that mounts a claim in one of the pods that it names, in the order of these, and for no other. -/
theorem pods_scanned (snapshot : Snapshot) (invocation : Invocation) :
    let view := View.ofSnapshot snapshot
    (∀ claim,
      view.pods.byClaim.group claim =
          (List.finRange snapshot.pods.length).filter
            (fun position => (snapshot.pods.get position).references claim) ∧
        view.pods.referencing claim = snapshot.pods.filter (·.references claim) ∧
        view.pods.containersMounting claim =
          (snapshot.pods.filter (·.references claim)).flatMap fun pod =>
            (pod.containers.filter fun container => container.claims.contains claim).map
              fun container => ⟨pod, container.name⟩) ∧
    (∀ namespaceName claim,
      view.pods.referencingIn namespaceName claim =
        (snapshot.pods.filter (·.references claim)).filter
          fun pod => namespaceName = "" || pod.namespaceName == namespaceName) ∧
    ∀ output, describeClaims view invocation = .ok output →
      ∃ (selection : Selection CorrelatedClaim) (lines : CorrelatedClaim → List String),
        view.selectClaims invocation.identifiers = .ok selection ∧
        Shows invocation.format
          (selection.items.map fun claim =>
            describedClaim snapshot.nodes (lines claim) claim)
          (Describes
            (fun claim text => text = claimBlock snapshot.nodes (lines claim) claim)
            selection.items)
          output.text ∧
        ∀ claim ∈ selection.items, ListsContainers snapshot.pods claim (lines claim) := by
  intro view
  refine ⟨fun claim => ⟨?_, ?_, ?_⟩, ?_, ?_⟩
  · exact group_byClaim_ofList snapshot.pods claim
  · exact referencing_ofList snapshot.pods claim
  · exact containersMounting_ofList snapshot.pods claim
  · intro namespaceName claim
    change (Pods.referencing (.ofList snapshot.pods) claim).filter _ = _
    rw [referencing_ofList]
  · intro output houtput
    obtain ⟨selection, hselect, hitems, -⟩ := select_claims snapshot invocation.identifiers
    rw [describeClaims_ofSnapshot, ← hitems] at houtput
    obtain ⟨-, rfl⟩ := unlessDefect_eq_ok_iff.mp houtput
    refine ⟨selection, containerLines snapshot, hselect,
      shows_claimDescriptions snapshot selection.items invocation.format, ?_⟩
    intro claim hclaim
    rw [hitems] at hclaim
    exact listsContainers_containerLines (List.mem_of_mem_filter hclaim)

/-- Pods that declare claims twice and in turn, two of them equal, and one that mounts what it does
not declare. -/
def repeatedClaims : Snapshot where
  capturedAt := none
  nodes := []
  volumes := [{ Volume.blank with id := "1", name := "v" }]
  pods := [
    ⟨"ns", "p", [⟨"a", "c"⟩, ⟨"b", "d"⟩, ⟨"e", "c"⟩], [⟨"app", ["c", "d"]⟩, ⟨"log", ["d"]⟩]⟩,
    ⟨"ns", "q", [], [⟨"app", ["c"]⟩]⟩,
    ⟨"ns", "p", [⟨"a", "c"⟩, ⟨"b", "d"⟩, ⟨"e", "c"⟩], [⟨"app", ["c", "d"]⟩, ⟨"log", ["d"]⟩]⟩,
    ⟨"other", "r", [⟨"a", "d"⟩, ⟨"b", "c"⟩], [⟨"app", ["c"]⟩]⟩]
  claims := [⟨"ns", "c", "v"⟩]

theorem repeatedClaims_scanned :
    (∃ output, describeClaims (.ofSnapshot repeatedClaims) ⟨.table, [], false⟩ = .ok output ∧
      output.text = "Name:           c\nNamespace:      ns\nVolume:         v (1)\n" ++
        "Size:           0 B\nStatus:         Unknown\nState:          Detached\n" ++
        "Pods:           ns/p,ns/p\nContainers:\n  ns/p: app\n  ns/p: app\n") ∧
    ((View.ofSnapshot repeatedClaims).pods.byClaim.group "c").map (·.val) = [0, 2, 3] := by
  have hok : ∃ output,
      describeClaims (.ofSnapshot repeatedClaims) ⟨.table, [], false⟩ = .ok output := by
    rw [describeClaims_ofSnapshot]
    exact ⟨_, rfl⟩
  obtain ⟨output, houtput⟩ := hok
  obtain ⟨hgroup, -, hdescribed⟩ := pods_scanned repeatedClaims ⟨.table, [], false⟩
  obtain ⟨selection, lines, hselect, hshows, hlists⟩ := hdescribed output houtput
  have hitems : selection.items =
      [⟨"c", "ns", { Volume.blank with id := "1", name := "v" }, ["ns/p", "ns/p"]⟩] := by
    rw [selectClaims_ofSnapshot] at hselect
    cases hselect
    decide
  rw [hitems] at hshows hlists
  have htext := (hshows.readable (.inl rfl)).block_of_singleton
  refine ⟨⟨output, houtput, ?_⟩, ?_⟩
  · rw [htext, (hlists _ List.mem_cons_self).lines_eq]
    decide +kernel
  · rw [(hgroup "c").1]
    decide

end StorageSurvey.Commands
