import StorageSurvey.Proofs.Survey.Defects
import StorageSurvey.Proofs.Survey.Representation

/-!
# What a topology shows

A topology is put together set by set and placement by placement, and the first placement on a node
that is not known ends the whole of it.  So there is a topology exactly if every placement names a
known node, and then it shows everything that the volume has, in its order, with the last record of
each node (`ShowsTopology`).  The status is the one of the volume; nothing of it comes from the
placements.
-/

namespace StorageSurvey.Survey

open StorageSurvey.Inventory

/-! ## Texts, sets and topologies -/

/-- Whether a text shows a placement: the host name of the last node with its identifier, and the
number of its pool. -/
def ShowsPlacement (nodes : List Node) (placement : ReplicaPlacement) (text : String) : Prop :=
  ∃ node, IsLastWith Node.id nodes placement.nodeId node ∧
    text = node.hostname ++ " (Pool " ++ toString placement.pool.toNat ++ ")"

/-- Whether a replica set is shown with a text for each of its placements, in their order. -/
structure ShowsSet (nodes : List Node) (set : ReplicaSet) (info : ReplicaSetInfo) : Prop where
  id : info.id = set.id
  nodeInfo : List.Forall₂ (ShowsPlacement nodes) set.placements info.nodeInfo
  haIncrease : info.haIncrease = set.haIncrease
  reAddOn : info.reAddOn = set.reAddOn

/-- Whether a topology shows every replica set of a volume, in their order, and its status. -/
structure ShowsTopology (nodes : List Node) (volume : Volume) (info : ReplicationInfo) : Prop where
  replicaSets : List.Forall₂ (ShowsSet nodes) volume.replicaSets info.replicaSets
  status : info.status = volume.status.text

/-! ## What is shown is worked out -/

section

variable {nodes : List Node}

theorem showsPlacement_iff (placement : ReplicaPlacement) (text : String) :
    ShowsPlacement nodes placement text ↔
      isKnown nodes placement.nodeId = true ∧
        s!"{hostnameOf nodes placement.nodeId} (Pool {placement.pool})" = text := by
  unfold ShowsPlacement hostnameOf
  simp only [← lastWith?_eq_some_iff_isLastWith]
  cases hlast : lastWith? Node.id nodes placement.nodeId with
  | none => simp [lastWith?_id_eq_none_iff.mp hlast]
  | some node =>
      have hknown : isKnown nodes placement.nodeId = true := by
        rw [← exists_byId?_ofList_iff, byId?_ofList]
        exact ⟨node, hlast⟩
      constructor
      · rintro ⟨_, ⟨⟩, rfl⟩
        exact ⟨hknown, rfl⟩
      · rintro ⟨-, rfl⟩
        exact ⟨node, rfl, rfl⟩

theorem showsSet_iff (set : ReplicaSet) (info : ReplicaSetInfo) :
    ShowsSet nodes set info ↔
      (∀ placement ∈ set.placements, isKnown nodes placement.nodeId = true) ∧
        replicaSetIn nodes set = info := by
  constructor
  · rintro ⟨hid, hnodeInfo, hhaIncrease, hreAddOn⟩
    obtain ⟨hknown, htexts⟩ := (forall₂_iff_map showsPlacement_iff).mp hnodeInfo
    refine ⟨hknown, ?_⟩
    obtain ⟨id, nodeInfo, haIncrease, reAddOn⟩ := info
    rw [replicaSetIn, ReplicaSetInfo.mk.injEq]
    exact ⟨hid.symm, htexts, hhaIncrease.symm, hreAddOn.symm⟩
  · rintro ⟨hknown, rfl⟩
    refine ⟨rfl, ?_, rfl, rfl⟩
    exact (forall₂_iff_map showsPlacement_iff).mpr ⟨hknown, rfl⟩

theorem forall_placements_iff (volume : Volume) (condition : String → Prop) :
    (∀ placed ∈ placements volume, condition placed.2.nodeId) ↔
      ∀ set ∈ volume.replicaSets, ∀ placement ∈ set.placements, condition placement.nodeId := by
  simp only [placements, List.forall_mem_flatMap, List.forall_mem_map]

theorem showsTopology_iff {volume : Volume} {info : ReplicationInfo} :
    ShowsTopology nodes volume info ↔
      placementDefect? nodes volume = none ∧ topologyIn nodes volume = info := by
  rw [placementDefect?_eq_none_iff, forall_placements_iff volume (isKnown nodes · = true)]
  constructor
  · rintro ⟨hreplicaSets, hstatus⟩
    obtain ⟨hknown, hsets⟩ := (forall₂_iff_map showsSet_iff).mp hreplicaSets
    refine ⟨hknown, ?_⟩
    obtain ⟨replicaSets, status⟩ := info
    rw [topologyIn, ReplicationInfo.mk.injEq]
    exact ⟨hsets, hstatus.symm⟩
  · rintro ⟨hknown, rfl⟩
    refine ⟨?_, rfl⟩
    exact (forall₂_iff_map showsSet_iff).mpr ⟨hknown, rfl⟩

end

/-! ## Outcomes -/

theorem replicationInfo_eq_ok_iff {nodes : List Node} {volume : Volume} {info : ReplicationInfo} :
    (Nodes.ofList nodes).replicationInfo volume = .ok info ↔ ShowsTopology nodes volume info := by
  rw [replicationInfo_ofList, unlessDefect_eq_ok_iff, showsTopology_iff]

theorem exists_replicationInfo_eq_ok_iff {nodes : List Node} {volume : Volume} :
    (∃ info, (Nodes.ofList nodes).replicationInfo volume = .ok info) ↔
      ∀ placed ∈ placements volume, isKnown nodes placed.2.nodeId = true := by
  rw [replicationInfo_ofList, exists_unlessDefect_eq_ok_iff, placementDefect?_eq_none_iff]

/-- A volume has a topology if all its placements name known nodes, and the topology shows them.
Any other volume fails with its first placement on a node that is not known.  The status does not
depend on where the volume is attached and placed. -/
theorem replicationInfo_outcome (nodes : List Node) (volume : Volume) :
    let index := Nodes.ofList nodes
    ((∃ info, index.replicationInfo volume = .ok info) ↔
        ∀ set ∈ volume.replicaSets, ∀ placement ∈ set.placements,
          placement.nodeId ∈ nodes.map Node.id) ∧
      (∀ info, index.replicationInfo volume = .ok info ↔ ShowsTopology nodes volume info) ∧
      (∀ failure, index.replicationInfo volume = .error failure ↔
        ∃ before set placement after,
          placements volume = before ++ (set, placement) :: after ∧
            (∀ earlier ∈ before, earlier.2.nodeId ∈ nodes.map Node.id) ∧
            placement.nodeId ∉ nodes.map Node.id ∧
            failure = .danglingReplica volume.name set.id placement.nodeId) ∧
      ∀ attachedOn replicaSets info changed, index.replicationInfo volume = .ok info →
        index.replicationInfo { volume with attachedOn, replicaSets } = .ok changed →
          changed.status = info.status := by
  intro index
  refine ⟨?_, fun info => replicationInfo_eq_ok_iff, ?_, ?_⟩
  · simp only [exists_replicationInfo_eq_ok_iff, isKnown_iff, index]
    exact forall_placements_iff volume (· ∈ nodes.map Node.id)
  · intro failure
    simp only [index, replicationInfo_ofList, unlessDefect_eq_error_iff,
      placementDefect?_eq_some_iff, ← isKnown_iff, Bool.not_eq_true]
  · intro attachedOn replicaSets info changed hinfo hchanged
    rw [(replicationInfo_eq_ok_iff.mp hchanged).status, (replicationInfo_eq_ok_iff.mp hinfo).status]

/-- Two nodes, of which the first one is written again under another host name. -/
def renamedNodes : List Node := [
  { Node.blank with id := "n1", hostname := "old" },
  { Node.blank with id := "n2", hostname := "h2" },
  { Node.blank with id := "n1", hostname := "h1" }]

/-- A volume with one set on both nodes and one on none, attached on a node that is not known. -/
def spreadVolume : Volume := { Volume.blank with
  id := "1", name := "v", attachedOn := "ghost", status := .up
  replicaSets := [⟨0, [⟨"n1", 1⟩, ⟨"n2", 0⟩], "x", ["n9"]⟩, ⟨1, [], "", []⟩] }

/-- Without an attachment and without copies the status of the volume is still the same. -/
theorem spreadVolume_status_kept :
    let index := Nodes.ofList renamedNodes
    let shown : ReplicationInfo :=
      ⟨[⟨0, ["h1 (Pool 1)", "h2 (Pool 0)"], "x", ["n9"]⟩, ⟨1, [], "", []⟩], "UP"⟩
    let changed : ReplicationInfo := ⟨[], "UP"⟩
    index.replicationInfo spreadVolume = .ok shown ∧
      index.replicationInfo { spreadVolume with attachedOn := "", replicaSets := [] } =
        .ok changed ∧
      changed.status = shown.status := by
  intro index shown changed
  have hshown : index.replicationInfo spreadVolume = .ok shown := by rfl
  have hchanged :
      index.replicationInfo { spreadVolume with attachedOn := "", replicaSets := [] } =
        .ok changed := by rfl
  obtain ⟨-, -, -, hstatus⟩ := replicationInfo_outcome renamedNodes spreadVolume
  exact ⟨hshown, hchanged, hstatus "" [] shown changed hshown hchanged⟩

end StorageSurvey.Survey
