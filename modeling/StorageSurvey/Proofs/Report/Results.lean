import StorageSurvey.Proofs.Document.Decoding
import StorageSurvey.Report.Description
import StorageSurvey.Report.Listing

/-!
# Results are well formed

No record that the program writes has a field twice.  Where the fields of one record are written
among those of another, as a volume's are in its summary and its description, their names stay
apart; and a node has one label for a key, because its labels are sorted.
-/

namespace StorageSurvey

open StorageSurvey.Document

namespace Document.Datum

theorem wellFormed_word32 (word : UInt32) : (natural word.toNat).WellFormed :=
  .natural (Nat.lt_trans word.toNat_lt (by decide))

theorem wellFormed_word64 (word : UInt64) : (natural word.toNat).WellFormed :=
  .natural word.toNat_lt

end Document.Datum

namespace Inventory

open Datum

theorem Pool.wellFormed (pool : Pool) : pool.toDatum.WellFormed := by
  refine .record (by simp) ?_
  simp [wellFormed_word32, wellFormed_word64]

theorem Labels.nodup_keys (labels : Labels) : (labels.entries.map (·.1)).Nodup :=
  List.Pairwise.map _ (fun _ _ hlt => String.ne_of_lt hlt) labels.sorted

theorem Labels.wellFormed (labels : Labels) : labels.toDatum.WellFormed := by
  refine .record ?_ fun field hfield => ?_
  · rw [List.map_map]
    exact labels.nodup_keys
  · obtain ⟨entry, -, rfl⟩ := List.mem_map.mp hfield
    exact .text entry.2

theorem Node.wellFormed (node : Node) : node.toDatum.WellFormed := by
  have hpools : (Datum.list (node.pools.map Pool.toDatum)).WellFormed :=
    .ofItems fun pool _ => pool.wellFormed
  refine .record ?_ ?_
  · cases node.version <;> simp [optionalField]
  · cases node.version <;> simp [optionalField, hpools, node.labels.wellFormed, WellFormed.text]

theorem ReplicaPlacement.wellFormed (placement : ReplicaPlacement) :
    placement.toDatum.WellFormed := by
  refine .record (by simp) ?_
  simp [wellFormed_word32, WellFormed.text]

theorem ReplicaSet.wellFormed (set : ReplicaSet) : set.toDatum.WellFormed := by
  have hplacements : (Datum.list (set.placements.map ReplicaPlacement.toDatum)).WellFormed :=
    .ofItems fun placement _ => placement.wellFormed
  refine .record (by simp) ?_
  simp [wellFormed_word32, hplacements, WellFormed.text, WellFormed.texts]

theorem Volume.wellFormed_fields (volume : Volume) :
    ∀ field ∈ volume.fields, field.2.WellFormed := by
  have hsets : (Datum.list (volume.replicaSets.map ReplicaSet.toDatum)).WellFormed :=
    .ofItems fun set _ => set.wellFormed
  simp [Volume.fields, wellFormed_word64, hsets, WellFormed.text]

theorem Volume.wellFormed (volume : Volume) : volume.toDatum.WellFormed :=
  .record (by simp [Volume.fields]) volume.wellFormed_fields

end Inventory

namespace Survey

open Datum

theorem ReplicaSetInfo.wellFormed (info : ReplicaSetInfo) : info.toDatum.WellFormed := by
  refine .record (by simp) ?_
  simp [wellFormed_word32, WellFormed.text, WellFormed.texts]

theorem ReplicationInfo.wellFormed (info : ReplicationInfo) : info.toDatum.WellFormed := by
  have hsets : (Datum.list (info.replicaSets.map ReplicaSetInfo.toDatum)).WellFormed :=
    .ofItems fun set _ => set.wellFormed
  refine .record (by simp) ?_
  simp [hsets, WellFormed.text]

theorem CorrelatedClaim.wellFormed_fields (claim : CorrelatedClaim) :
    ∀ field ∈ claim.fields, field.2.WellFormed := by
  simp [CorrelatedClaim.fields, claim.volume.wellFormed, WellFormed.text, WellFormed.texts]

end Survey

namespace Report

open Datum

/-- Fields that follow well-formed fields under names of their own give a well-formed record. -/
theorem wellFormed_append {fields others : List (String × Datum)}
    (hnames : ((fields ++ others).map (·.1)).Nodup) (hfields : ∀ field ∈ fields, field.2.WellFormed)
    (hothers : ∀ field ∈ others, field.2.WellFormed) :
    (Datum.record (fields ++ others)).WellFormed :=
  .record hnames fun field hfield =>
    (List.mem_append.mp hfield).elim (hfields field) (hothers field)

theorem nodesDatum_wellFormed (nodes : List Inventory.Node) : (nodesDatum nodes).WellFormed :=
  .ofItems fun node _ => node.wellFormed

theorem VolumeSummary.wellFormed (summary : VolumeSummary) : summary.toDatum.WellFormed :=
  wellFormed_append (by simp [Inventory.Volume.fields]) summary.volume.wellFormed_fields
    (by simp [WellFormed.text])

theorem ClaimSummary.wellFormed (summary : ClaimSummary) : summary.toDatum.WellFormed :=
  wellFormed_append (by simp [Survey.CorrelatedClaim.fields]) summary.claim.wellFormed_fields
    (by simp [WellFormed.text])

theorem VolumeDescription.wellFormed (description : VolumeDescription) :
    description.toDatum.WellFormed :=
  wellFormed_append (by simp [Inventory.Volume.fields]) description.volume.wellFormed_fields
    (by simp [WellFormed.text, WellFormed.texts, description.replication.wellFormed])

theorem ClaimDescription.wellFormed (description : ClaimDescription) :
    description.toDatum.WellFormed :=
  wellFormed_append (by simp [Survey.CorrelatedClaim.fields]) description.claim.wellFormed_fields
    (by simp [WellFormed.text, WellFormed.texts])

theorem NodeCapacity.wellFormed (node : NodeCapacity) : node.toDatum.WellFormed := by
  refine .record (by simp) ?_
  simp [WellFormed.text, wellFormed_word64]

theorem ClusterDescription.wellFormed (description : ClusterDescription) :
    description.toDatum.WellFormed := by
  have hnodes : (Datum.list (description.nodes.map NodeCapacity.toDatum)).WellFormed :=
    .ofItems fun node _ => node.wellFormed
  have hcaptured : ((description.capturedAt.map Inventory.instantDatum).getD .null).WellFormed := by
    cases description.capturedAt with
    | none => exact .null
    | some instant => exact .text _
  refine .record (by simp) ?_
  simp [wellFormed_word64, hnodes, hcaptured]

end Report

end StorageSurvey
