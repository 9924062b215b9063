import Mathlib.Data.List.Forall2
import StorageSurvey.Proofs.Survey.LastRecords
import StorageSurvey.Survey.Replication

/-!
# Defects of volumes

A volume is defective if it names a node that is not known: one that it is attached on, or one that
a copy is placed on.  Whether it is, and what its state and its topology are otherwise, can be said
of the plain list of nodes.  `unlessDefect` puts the two together; what goes through a list of
volumes one after the other fails with the first defect that it comes to.
-/

namespace StorageSurvey.Survey

open StorageSurvey.Inventory

/-! ## Results that a defect keeps from being given -/

/-- The result, unless there is a defect. -/
def unlessDefect {α : Type} (defect? : Option Failure) (result : α) : Except Failure α :=
  match defect? with
  | some failure => .error failure
  | none => .ok result

section

variable {α β : Type}

theorem unlessDefect_bind_pure (defect? : Option Failure) (result : α) (next : α → β) :
    (unlessDefect defect? result >>= fun found => pure (next found)) =
      unlessDefect defect? (next result) := by
  cases defect? <;> rfl

/-- What goes through a list fails with the first defect. -/
theorem mapM_unlessDefect (defect? : α → Option Failure) (result : α → β) (items : List α) :
    items.mapM (fun item => unlessDefect (defect? item) (result item)) =
      unlessDefect (items.findSome? defect?) (items.map result) := by
  induction items with
  | nil => rfl
  | cons item items ih =>
      rw [List.mapM_cons, ih, List.findSome?_cons]
      cases hitem : defect? item with
      | some failure => rfl
      | none => exact unlessDefect_bind_pure _ _ (result item :: ·)

theorem unlessDefect_eq_ok_iff {defect? : Option Failure} {result found : α} :
    unlessDefect defect? result = .ok found ↔ defect? = none ∧ result = found := by
  cases defect? <;> simp [unlessDefect]

theorem unlessDefect_eq_error_iff {defect? : Option Failure} {result : α} {failure : Failure} :
    unlessDefect defect? result = .error failure ↔ defect? = some failure := by
  cases defect? <;> simp [unlessDefect]

theorem exists_unlessDefect_eq_ok_iff {defect? : Option Failure} {result : α} :
    (∃ found, unlessDefect defect? result = .ok found) ↔ defect? = none := by
  cases defect? <;> simp [unlessDefect]

/-- Where a relation is a function with a condition, a list is related to another one exactly if
every member meets the condition and the other list has the values. -/
theorem forall₂_iff_map {relation : α → β → Prop} {condition : α → Prop} {value : α → β}
    (hrelation : ∀ item found, relation item found ↔ condition item ∧ value item = found)
    {items : List α} {values : List β} :
    List.Forall₂ relation items values ↔
      (∀ item ∈ items, condition item) ∧ items.map value = values := by
  have hfunction : relation = fun item found => condition item ∧ value item = found := by
    funext item found
    exact propext (hrelation item found)
  rw [hfunction, List.forall₂_and_left, ← List.forall₂_map_left_iff, List.forall₂_eq_eq_eq]

end

/-! ## Nodes -/

theorem all_ofList_nodes (nodes : List Node) :
    (Nodes.ofList nodes).all = survivors Node.id nodes :=
  Catalog.records_ofList nodes

theorem byId?_ofList (nodes : List Node) (id : String) :
    (Nodes.ofList nodes).byId? id = lastWith? Node.id nodes id :=
  Catalog.find?_ofList nodes id

/-- Whether a node has this identifier. -/
def isKnown (nodes : List Node) (id : String) : Bool :=
  nodes.any (·.id == id)

theorem lastWith?_id_eq_none_iff {nodes : List Node} {id : String} :
    lastWith? Node.id nodes id = none ↔ isKnown nodes id = false := by
  simp [lastWith?_eq_none_iff, isKnown]

theorem isKnown_iff {nodes : List Node} {id : String} :
    isKnown nodes id = true ↔ id ∈ nodes.map Node.id := by
  simp [isKnown]

theorem exists_byId?_ofList_iff {nodes : List Node} {id : String} :
    (∃ node, (Nodes.ofList nodes).byId? id = some node) ↔ isKnown nodes id = true := by
  rw [byId?_ofList, ← Option.ne_none_iff_exists', Ne, lastWith?_id_eq_none_iff,
    Bool.not_eq_false]

/-- The host name of the last node with this identifier. -/
def hostnameOf (nodes : List Node) (id : String) : String :=
  ((lastWith? Node.id nodes id).map Node.hostname).getD ""

/-! ## Attachments -/

/-- The failure of a volume that is attached on a node which is not known. -/
def attachmentDefect? (nodes : List Node) (volume : Volume) : Option Failure :=
  if volume.attachedOn ≠ "" ∧ isKnown nodes volume.attachedOn = false then
    some (.danglingAttachment volume.name volume.attachedOn)
  else none

theorem attachmentDefect?_eq_none_iff {nodes : List Node} {volume : Volume} :
    attachmentDefect? nodes volume = none ↔
      volume.attachedOn = "" ∨ isKnown nodes volume.attachedOn = true := by
  unfold attachmentDefect?
  by_cases hdetached : volume.attachedOn = ""
  · simp [hdetached]
  · simp [hdetached]

/-- Where a volume without such a defect is attached. -/
def stateIn (nodes : List Node) (volume : Volume) : AttachedState :=
  if volume.attachedOn = "" then .detached else .on (hostnameOf nodes volume.attachedOn)

theorem attachedState_ofList (nodes : List Node) (volume : Volume) :
    (Nodes.ofList nodes).attachedState volume =
      unlessDefect (attachmentDefect? nodes volume) (stateIn nodes volume) := by
  unfold Nodes.attachedState Nodes.attachedNode attachmentDefect? stateIn hostnameOf
  rw [byId?_ofList]
  by_cases hdetached : volume.attachedOn = ""
  · simp [hdetached, unlessDefect]
  · cases hlast : lastWith? Node.id nodes volume.attachedOn with
    | none => simp [hdetached, lastWith?_id_eq_none_iff.mp hlast, unlessDefect]
    | some node =>
        have hknown : isKnown nodes volume.attachedOn ≠ false := fun h => by
          rw [lastWith?_id_eq_none_iff.mpr h] at hlast
          cases hlast
        simp [hdetached, hknown, unlessDefect]

/-! ## Placements -/

/-- The placements of a volume with the sets to which they belong, in the order of the sets. -/
def placements (volume : Volume) : List (ReplicaSet × ReplicaPlacement) :=
  volume.replicaSets.flatMap fun set => set.placements.map fun placement => (set, placement)

/-- The failure for the first placement of a volume on a node that is not known. -/
def placementDefect? (nodes : List Node) (volume : Volume) : Option Failure :=
  ((placements volume).find? fun placed => !isKnown nodes placed.2.nodeId).map
    fun placed => .danglingReplica volume.name placed.1.id placed.2.nodeId

theorem placementDefect?_eq_none_iff {nodes : List Node} {volume : Volume} :
    placementDefect? nodes volume = none ↔
      ∀ placed ∈ placements volume, isKnown nodes placed.2.nodeId = true := by
  simp [placementDefect?, List.find?_eq_none]

/-- The defect is that of a placement before which every node is known. -/
theorem placementDefect?_eq_some_iff {nodes : List Node} {volume : Volume} {failure : Failure} :
    placementDefect? nodes volume = some failure ↔
      ∃ before set placement after,
        placements volume = before ++ (set, placement) :: after ∧
          (∀ earlier ∈ before, isKnown nodes earlier.2.nodeId = true) ∧
          isKnown nodes placement.nodeId = false ∧
          failure = .danglingReplica volume.name set.id placement.nodeId := by
  unfold placementDefect?
  rw [Option.map_eq_some_iff]
  constructor
  · rintro ⟨⟨set, placement⟩, hfind, rfl⟩
    obtain ⟨hunknown, before, after, hsplit, hbefore⟩ := List.find?_eq_some_iff_append.mp hfind
    refine ⟨before, set, placement, after, hsplit, ?_, ?_, rfl⟩
    · intro earlier hearlier
      simpa using hbefore earlier hearlier
    · simpa using hunknown
  · rintro ⟨before, set, placement, after, hsplit, hbefore, hunknown, rfl⟩
    refine ⟨(set, placement), List.find?_eq_some_iff_append.mpr ?_, rfl⟩
    refine ⟨by simpa using hunknown, before, after, hsplit, ?_⟩
    intro earlier hearlier
    simpa using hbefore earlier hearlier

/-- The first defect of a volume: its attachment comes before its placements. -/
def volumeDefect? (nodes : List Node) (volume : Volume) : Option Failure :=
  (attachmentDefect? nodes volume).or (placementDefect? nodes volume)

/-- A replica set with its nodes by name. -/
def replicaSetIn (nodes : List Node) (set : ReplicaSet) : ReplicaSetInfo where
  id := set.id
  nodeInfo := set.placements.map fun placement =>
    s!"{hostnameOf nodes placement.nodeId} (Pool {placement.pool})"
  haIncrease := set.haIncrease
  reAddOn := set.reAddOn

/-- The topology of a volume without such a defect. -/
def topologyIn (nodes : List Node) (volume : Volume) : ReplicationInfo :=
  ⟨volume.replicaSets.map (replicaSetIn nodes), volume.status.text⟩

section

variable (nodes : List Node) (volume : Volume)

/-- What is wrong with a placement in a replica set. -/
private def placementFault? (set : ReplicaSet) (placement : ReplicaPlacement) : Option Failure :=
  if isKnown nodes placement.nodeId then none
  else some (.danglingReplica volume.name set.id placement.nodeId)

private theorem placementInfo_ofList (set : ReplicaSet) (placement : ReplicaPlacement) :
    (Nodes.ofList nodes).placementInfo volume set placement =
      unlessDefect (placementFault? nodes volume set placement)
        s!"{hostnameOf nodes placement.nodeId} (Pool {placement.pool})" := by
  unfold Nodes.placementInfo placementFault? hostnameOf
  rw [byId?_ofList]
  cases hlast : lastWith? Node.id nodes placement.nodeId with
  | none => simp [lastWith?_id_eq_none_iff.mp hlast, unlessDefect]
  | some node =>
      have hknown : isKnown nodes placement.nodeId ≠ false := fun h => by
        rw [lastWith?_id_eq_none_iff.mpr h] at hlast
        cases hlast
      simp [hknown, unlessDefect]

private theorem replicaSetInfo_ofList (set : ReplicaSet) :
    (Nodes.ofList nodes).replicaSetInfo volume set =
      unlessDefect (set.placements.findSome? (placementFault? nodes volume set))
        (replicaSetIn nodes set) := by
  unfold Nodes.replicaSetInfo
  rw [funext (placementInfo_ofList nodes volume set), mapM_unlessDefect, unlessDefect_bind_pure]
  rfl

/-- The first defect of the sets, one after the other, is the first defect of all placements. -/
private theorem findSome?_placementFault? :
    volume.replicaSets.findSome? (fun set =>
        set.placements.findSome? (placementFault? nodes volume set)) =
      placementDefect? nodes volume := by
  unfold placementDefect? placements
  induction volume.replicaSets with
  | nil => rfl
  | cons set sets ih =>
      have hset : set.placements.findSome? (placementFault? nodes volume set) =
          ((set.placements.map fun placement => (set, placement)).find?
            fun placed => !isKnown nodes placed.2.nodeId).map
              fun placed => .danglingReplica volume.name placed.1.id placed.2.nodeId := by
        induction set.placements with
        | nil => rfl
        | cons placement rest ih =>
            rw [List.findSome?_cons, List.map_cons, List.find?_cons, ih, placementFault?]
            cases isKnown nodes placement.nodeId <;> rfl
      rw [List.findSome?_cons, List.flatMap_cons, List.find?_append, Option.map_or, ← ih, ← hset]
      cases set.placements.findSome? (placementFault? nodes volume set) <;> rfl

theorem replicationInfo_ofList :
    (Nodes.ofList nodes).replicationInfo volume =
      unlessDefect (placementDefect? nodes volume) (topologyIn nodes volume) := by
  unfold Nodes.replicationInfo
  rw [funext (replicaSetInfo_ofList nodes volume), mapM_unlessDefect, unlessDefect_bind_pure,
    findSome?_placementFault?]
  rfl

end

end StorageSurvey.Survey
