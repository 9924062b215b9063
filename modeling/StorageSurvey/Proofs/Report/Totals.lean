import Mathlib.Algebra.GroupWithZero.Nat
import StorageSurvey.Proofs.Survey.Defects
import StorageSurvey.Report.Description

/-!
# Totals of capacities

Bytes are added up word by word, and every addition stops at the largest word.  Where the additions
stop makes no difference to the total: it is the exact sum, or the largest word if that is less
(`IsBoundedSum`).  One more addition keeps this (`IsBoundedSum.concat`), so it holds of the total of
a whole list; and a total of totals is a total of everything in them (`IsBoundedSum.flatMap`).  So
neither the order of pools nor their grouping into nodes shows in the capacity of a cluster.
-/

namespace StorageSurvey.Inventory

/-! ## Sums of words -/

/-- Whether a word is the exact sum of several words, or the largest word if that is less. -/
def IsBoundedSum (total : UInt64) (words : List UInt64) : Prop :=
  total.toNat = min (UInt64.size - 1) (words.map UInt64.toNat).sum

namespace IsBoundedSum

variable {total : UInt64} {words : List UInt64}

theorem nil : IsBoundedSum 0 [] := rfl

/-- One more word, added to a total that may have stopped already. -/
theorem concat (h : IsBoundedSum total words) (word : UInt64) :
    IsBoundedSum (saturatingAdd total word) (words ++ [word]) := by
  unfold IsBoundedSum at *
  rw [toNat_saturatingAdd, h, List.map_append, List.sum_append, List.map_singleton,
    List.sum_singleton]
  omega

theorem eq_of_perm (h : IsBoundedSum total words) {other : UInt64} {others : List UInt64}
    (hother : IsBoundedSum other others) (hperm : words.Perm others) : total = other := by
  apply UInt64.toNat_inj.mp
  rw [h, hother, (hperm.map UInt64.toNat).sum_nat]

section

variable {β : Type} {groups : List β} {groupTotal : β → UInt64} {group : β → List UInt64}

/-- A bound on each group makes no difference under the same bound on the whole. -/
theorem min_sum_groups (hgroup : ∀ b, IsBoundedSum (groupTotal b) (group b)) (groups : List β) :
    min (UInt64.size - 1) ((groups.map groupTotal).map UInt64.toNat).sum =
      min (UInt64.size - 1) ((groups.flatMap group).map UInt64.toNat).sum := by
  induction groups with
  | nil => rfl
  | cons b groups ih =>
      rw [List.map_cons, List.map_cons, List.sum_cons, List.flatMap_cons, List.map_append,
        List.sum_append, hgroup b]
      omega

/-- Words that come in groups, each with a total of its own, have the same total as the groups. -/
theorem flatMap (hgroup : ∀ b, IsBoundedSum (groupTotal b) (group b))
    (h : IsBoundedSum total (groups.map groupTotal)) :
    IsBoundedSum total (groups.flatMap group) :=
  h.trans (min_sum_groups hgroup groups)

end

end IsBoundedSum

/-! ## Capacities -/

namespace Capacity

/-- Whether a capacity is the total of several ones, in used and in total bytes. -/
structure IsTotal (whole : Capacity) (parts : List Capacity) : Prop where
  used : IsBoundedSum whole.used (parts.map Capacity.used)
  total : IsBoundedSum whole.total (parts.map Capacity.total)

theorem sum_concat (parts : List Capacity) (part : Capacity) :
    sum (parts ++ [part]) = (sum parts).add part := by
  rw [sum, List.foldl_append]
  rfl

theorem isTotal_sum (parts : List Capacity) : (sum parts).IsTotal parts := by
  induction parts using List.reverseRecOn with
  | nil => exact ⟨.nil, .nil⟩
  | append_singleton parts part ih =>
      rw [sum_concat]
      constructor
      · rw [List.map_append]
        exact ih.used.concat part.used
      · rw [List.map_append]
        exact ih.total.concat part.total

namespace IsTotal

variable {whole : Capacity} {parts : List Capacity}

theorem eq_of_perm (h : whole.IsTotal parts) {other : Capacity} {others : List Capacity}
    (hother : other.IsTotal others) (hperm : parts.Perm others) : whole = other := by
  have hused : whole.used = other.used := h.used.eq_of_perm hother.used (hperm.map _)
  have htotal : whole.total = other.total := h.total.eq_of_perm hother.total (hperm.map _)
  cases whole
  cases other
  rw [mk.injEq]
  exact ⟨hused, htotal⟩

theorem flatMap {β : Type} {groups : List β} {groupTotal : β → Capacity}
    {group : β → List Capacity} (hgroup : ∀ b, (groupTotal b).IsTotal (group b))
    (h : whole.IsTotal (groups.map groupTotal)) : whole.IsTotal (groups.flatMap group) := by
  constructor
  · rw [List.map_flatMap]
    refine IsBoundedSum.flatMap (fun b => (hgroup b).used) ?_
    exact List.map_map ▸ h.used
  · rw [List.map_flatMap]
    refine IsBoundedSum.flatMap (fun b => (hgroup b).total) ?_
    exact List.map_map ▸ h.total

end IsTotal

end Capacity

theorem Node.isTotal_capacity (node : Node) :
    node.capacity.IsTotal (node.pools.map Pool.capacity) :=
  Capacity.isTotal_sum _

end StorageSurvey.Inventory

namespace StorageSurvey.Report

open StorageSurvey.Inventory StorageSurvey.Survey

/-! ## The cluster -/

/-- The pools of the nodes that survive. -/
def survivingPools (nodes : List Node) : List Pool :=
  (survivors Node.id nodes).flatMap Node.pools

/-- Whether a row of a description shows a node with the total of its pools. -/
structure ShowsCapacity (node : Node) (row : NodeCapacity) : Prop where
  hostname : row.hostname = node.hostname
  status : row.status = node.status
  capacity : row.capacity.IsTotal (node.pools.map Pool.capacity)

theorem capacity_ofList (nodes : List Node) :
    (Nodes.ofList nodes).capacity = .sum ((survivors Node.id nodes).map Node.capacity) := by
  rw [Nodes.capacity, all_ofList_nodes]

theorem isTotal_capacity_ofList (nodes : List Node) :
    (Nodes.ofList nodes).capacity.IsTotal ((survivingPools nodes).map Pool.capacity) := by
  have hnodes := Capacity.isTotal_sum ((survivors Node.id nodes).map Node.capacity)
  rw [capacity_ofList, survivingPools, List.map_flatMap]
  exact hnodes.flatMap Node.isTotal_capacity

theorem rows_ofNodes (capturedAt : Option Time.Instant) (nodes : List Node) :
    (ClusterDescription.ofNodes capturedAt (.ofList nodes)).nodes =
      (survivors Node.id nodes).map fun node => ⟨node.hostname, node.status, node.capacity⟩ := by
  rw [ClusterDescription.ofNodes, all_ofList_nodes]

/-- The capacity of a node is the total of its pools, and that of a cluster the total of the pools
of all nodes that survive.  A description has a row for each of these nodes, and the total of its
rows.  It depends on nothing but which pools there are. -/
theorem capacity_totals (capturedAt : Option Time.Instant) (nodes : List Node) :
    let cluster := Nodes.ofList nodes
    let description := ClusterDescription.ofNodes capturedAt cluster
    (∀ node : Node, node.capacity.IsTotal (node.pools.map Pool.capacity)) ∧
      cluster.capacity.IsTotal ((survivingPools nodes).map Pool.capacity) ∧
      List.Forall₂ ShowsCapacity (survivors Node.id nodes) description.nodes ∧
      description.capacity = cluster.capacity ∧
      description.capacity.IsTotal (description.nodes.map (·.capacity)) ∧
      ∀ otherTime others, (survivingPools nodes).Perm (survivingPools others) →
        (ClusterDescription.ofNodes otherTime (.ofList others)).capacity =
          description.capacity := by
  intro cluster description
  have hpools := isTotal_capacity_ofList nodes
  have hrows : description.nodes = _ := rows_ofNodes capturedAt nodes
  refine ⟨Node.isTotal_capacity, hpools, ?_, rfl, ?_, ?_⟩
  · rw [hrows, List.forall₂_map_right_iff, List.forall₂_same]
    intro node _
    exact ⟨rfl, rfl, node.isTotal_capacity⟩
  · have hsum : description.capacity = .sum (description.nodes.map (·.capacity)) := by
      rw [hrows, List.map_map]
      exact capacity_ofList nodes
    rw [hsum]
    exact Capacity.isTotal_sum _
  · intro otherTime others hperm
    have hothers := isTotal_capacity_ofList others
    exact hothers.eq_of_perm hpools (hperm.symm.map Pool.capacity)

/-- Two nodes, of which the first one is overwritten; its pools hold more than a word can count. -/
def fullNodes : List Node := [
  { Node.blank with id := "a", pools := [⟨0, 1, 1⟩] },
  { Node.blank with id := "b", pools := [⟨0, 1, 5⟩] },
  { Node.blank with id := "a", pools := [⟨0, 0xfffffffffffffffe, 10⟩, ⟨1, 7, 20⟩] }]

/-- The same pools in one node, in another order. -/
def fullNode : List Node := [
  { Node.blank with id := "c", pools := [⟨0, 1, 5⟩, ⟨1, 7, 20⟩, ⟨0, 0xfffffffffffffffe, 10⟩] }]

/-- The used bytes of both clusters are counted up to the largest word, and their totals agree. -/
theorem fullNodes_regrouped :
    (survivingPools fullNodes).Perm (survivingPools fullNode) ∧
      (ClusterDescription.ofNodes none (.ofList fullNode)).capacity =
        (ClusterDescription.ofNodes none (.ofList fullNodes)).capacity ∧
      (ClusterDescription.ofNodes none (.ofList fullNodes)).capacity =
        ⟨0xffffffffffffffff, 35⟩ := by
  have hpools : (survivingPools fullNodes).Perm (survivingPools fullNode) := by decide
  obtain ⟨-, -, -, -, -, hregrouped⟩ := capacity_totals none fullNodes
  exact ⟨hpools, hregrouped none fullNode hpools, by decide⟩

end StorageSurvey.Report
