import StorageSurvey.Inventory.Schema
import StorageSurvey.Inventory.Written
import StorageSurvey.Proofs.Document.Reading

/-!
# The records of a snapshot are read back

Each record is written with its fields in the order of their declaration, so its reader sets them
one after the other.  The fields that are left out where there is nothing to write, the time of
capture and the version of a node, are blank to begin with.
-/

namespace StorageSurvey.Inventory

open StorageSurvey.Document StorageSurvey.Document.Dialect

variable {σ : Type} {m : Type → Type} [Monad m] [MonadExceptOf Fault m] [LawfulMonad m]
variable {d : Dialect σ m} {forms : ScalarForms σ}

/-! ## Labels -/

/-- A key after all others goes to the end. -/
theorem insertEntry_of_last {key value : String} {entries : List (String × String)}
    (h : ∀ entry ∈ entries, entry.1 < key) :
    Labels.insertEntry key value entries = entries ++ [(key, value)] := by
  induction entries with
  | nil => rfl
  | cons first rest ih =>
      have hfirst : first.1 < key := h first List.mem_cons_self
      have hnot : ¬ key < first.1 := String.lt_asymm hfirst
      have hne : key ≠ first.1 := fun heq => String.lt_irrefl _ (heq ▸ hfirst)
      rw [Labels.insertEntry, if_neg hnot, if_neg hne, List.cons_append,
        ih fun entry hmem => h entry (List.mem_cons_of_mem first hmem)]

theorem entries_foldl_insert {entries : List (String × String)} {labels : Labels}
    (h : (labels.entries ++ entries).Pairwise fun first second => first.1 < second.1) :
    (entries.foldl (fun labels entry => labels.insert entry.1 entry.2) labels).entries =
      labels.entries ++ entries := by
  induction entries generalizing labels with
  | nil => rw [List.foldl_nil, List.append_nil]
  | cons entry entries ih =>
      have hlast : ∀ other ∈ labels.entries, other.1 < entry.1 := fun other hmem =>
        (List.pairwise_append.mp h).2.2 other hmem entry List.mem_cons_self
      have hinsert : (labels.insert entry.1 entry.2).entries = labels.entries ++ [entry] :=
        insertEntry_of_last hlast
      rw [List.foldl_cons, ih, hinsert, List.append_assoc, List.singleton_append]
      rwa [hinsert, List.append_assoc, List.singleton_append]

/-- Labels that are inserted in their order are the same labels. -/
theorem ofList_entries (labels : Labels) : Labels.ofList labels.entries = labels := by
  have hempty : (Labels.empty.entries ++ labels.entries).Pairwise
      fun first second => first.1 < second.1 := labels.sorted
  have h := entries_foldl_insert hempty
  obtain ⟨entries, sorted⟩ := labels
  exact Labels.mk.injEq .. ▸ h

theorem reads_labels (hd : d.Understands forms) (labels : Labels) :
    Reads forms (Labels.read d) labels.toDatum labels := by
  intro path
  rw [Labels.read, Labels.toDatum, reads_textTable hd, pure_bind, ofList_entries]

/-! ## Nodes -/

theorem reads_pool (hd : d.Understands forms) (pool : Pool) :
    Reads forms (d.record (Pool.shape d)) pool.toDatum pool := by
  refine reads_record (fun path => ?_) rfl
  rw [recordEntries_cons hd rfl (by simp) (reads_field (reads_word32 hd pool.id)),
    recordEntries_cons hd rfl (by simp) (reads_field (reads_word64 hd pool.used)),
    recordEntries_cons hd rfl (by simp) (reads_field (reads_word64 hd pool.totalSize))]
  rfl

theorem reads_nodeStatus (hd : d.Understands forms) (status : NodeStatus) :
    Reads forms (d.variantOf NodeStatus.named) (.text status.name) status :=
  reads_variantOf hd (by cases status <;> rfl)

/-- The fields that every node has are set before its version is looked at. -/
theorem recordEntries_node (hd : d.Understands forms) (node : Node) (path : Path)
    (rest : List (String × Datum)) :
    d.recordEntries (Node.shape d) path (Node.shape d).blank [] (forms.entries ([
        ("id", .text node.id),
        ("hostname", .text node.hostname),
        ("mgmtIp", .text node.managementIp),
        ("dataIp", .text node.dataIp),
        ("schedulerNodeName", .text node.schedulerName),
        ("pools", .list (node.pools.map Pool.toDatum)),
        ("status", .text node.status.name),
        ("labels", node.labels.toDatum)] ++ rest)) =
      d.recordEntries (Node.shape d) path { node with version := none }
        ["labels", "status", "pools", "schedulerNodeName", "dataIp", "mgmtIp", "hostname", "id"]
        (forms.entries rest) := by
  simp only [List.cons_append, List.nil_append]
  rw [recordEntries_cons hd rfl (by simp) (reads_field (reads_text hd node.id)),
    recordEntries_cons hd rfl (by simp) (reads_field (reads_text hd node.hostname)),
    recordEntries_cons hd rfl (by simp) (reads_field (reads_text hd node.managementIp)),
    recordEntries_cons hd rfl (by simp) (reads_field (reads_text hd node.dataIp)),
    recordEntries_cons hd rfl (by simp) (reads_field (reads_text hd node.schedulerName)),
    recordEntries_cons hd rfl (by simp)
      (reads_field (reads_list fun pool _ => reads_pool hd pool)),
    recordEntries_cons hd rfl (by simp) (reads_field (reads_nodeStatus hd node.status)),
    recordEntries_cons hd rfl (by simp) (reads_field (reads_labels hd node.labels))]
  rfl

theorem reads_node (hd : d.Understands forms) (node : Node) :
    Reads forms (d.record (Node.shape d)) node.toDatum node := by
  obtain ⟨id, hostname, managementIp, dataIp, schedulerName, pools, status, labels, version⟩ := node
  cases version with
  | none =>
      refine reads_record (fun path => ?_) rfl
      rw [recordEntries_node hd]
      rfl
  | some version =>
      refine reads_record (fun path => ?_) rfl
      rw [recordEntries_node hd, Datum.optionalField, recordEntries_cons hd rfl (by simp)
        (reads_field (reads_optional hd (reads_text hd version)))]
      rfl

/-! ## Volumes -/

theorem reads_replicaPlacement (hd : d.Understands forms) (placement : ReplicaPlacement) :
    Reads forms (d.record (ReplicaPlacement.shape d)) placement.toDatum placement := by
  refine reads_record (fun path => ?_) rfl
  rw [recordEntries_cons hd rfl (by simp) (reads_field (reads_text hd placement.nodeId)),
    recordEntries_cons hd rfl (by simp) (reads_field (reads_word32 hd placement.pool))]
  rfl

theorem reads_replicaSet (hd : d.Understands forms) (set : ReplicaSet) :
    Reads forms (d.record (ReplicaSet.shape d)) set.toDatum set := by
  refine reads_record (fun path => ?_) rfl
  rw [recordEntries_cons hd rfl (by simp) (reads_field (reads_word32 hd set.id)),
    recordEntries_cons hd rfl (by simp)
      (reads_field (reads_list fun placement _ => reads_replicaPlacement hd placement)),
    recordEntries_cons hd rfl (by simp) (reads_field (reads_text hd set.haIncrease)),
    recordEntries_cons hd rfl (by simp) (reads_field (reads_texts hd set.reAddOn))]
  rfl

theorem reads_volumeStatus (hd : d.Understands forms) (status : VolumeStatus) :
    Reads forms (d.variantOf VolumeStatus.named) (.text status.name) status :=
  reads_variantOf hd (by cases status <;> rfl)

/-- The fields of a volume are set, whatever follows them. -/
theorem recordEntries_volume (hd : d.Understands forms) (volume : Volume) (path : Path)
    (rest : List (String × Datum)) :
    d.recordEntries (Volume.shape d) path (Volume.shape d).blank []
        (forms.entries (volume.fields ++ rest)) =
      d.recordEntries (Volume.shape d) path volume
        ["replicaSets", "status", "attachedOn", "sizeBytes", "name", "id"]
        (forms.entries rest) := by
  simp only [Volume.fields, List.cons_append, List.nil_append]
  rw [recordEntries_cons hd rfl (by simp) (reads_field (reads_text hd volume.id)),
    recordEntries_cons hd rfl (by simp) (reads_field (reads_text hd volume.name)),
    recordEntries_cons hd rfl (by simp) (reads_field (reads_word64 hd volume.size)),
    recordEntries_cons hd rfl (by simp) (reads_field (reads_text hd volume.attachedOn)),
    recordEntries_cons hd rfl (by simp) (reads_field (reads_volumeStatus hd volume.status)),
    recordEntries_cons hd rfl (by simp)
      (reads_field (reads_list fun set _ => reads_replicaSet hd set))]

theorem reads_volume (hd : d.Understands forms) (volume : Volume) :
    Reads forms (d.record (Volume.shape d)) volume.toDatum volume := by
  refine reads_record (fun path => ?_) rfl
  rw [← List.append_nil volume.fields, recordEntries_volume hd]
  rfl

/-! ## Workloads -/

theorem reads_claimVolume (hd : d.Understands forms) (volume : ClaimVolume) :
    Reads forms (d.record (ClaimVolume.shape d)) volume.toDatum volume := by
  refine reads_record (fun path => ?_) rfl
  rw [recordEntries_cons hd rfl (by simp) (reads_field (reads_text hd volume.name)),
    recordEntries_cons hd rfl (by simp) (reads_field (reads_text hd volume.claimName))]
  rfl

theorem reads_container (hd : d.Understands forms) (container : Container) :
    Reads forms (d.record (Container.shape d)) container.toDatum container := by
  refine reads_record (fun path => ?_) rfl
  rw [recordEntries_cons hd rfl (by simp) (reads_field (reads_text hd container.name)),
    recordEntries_cons hd rfl (by simp) (reads_field (reads_texts hd container.claims))]
  rfl

theorem reads_pod (hd : d.Understands forms) (pod : Pod) :
    Reads forms (d.record (Pod.shape d)) pod.toDatum pod := by
  refine reads_record (fun path => ?_) rfl
  rw [recordEntries_cons hd rfl (by simp) (reads_field (reads_text hd pod.namespaceName)),
    recordEntries_cons hd rfl (by simp) (reads_field (reads_text hd pod.name)),
    recordEntries_cons hd rfl (by simp)
      (reads_field (reads_list fun volume _ => reads_claimVolume hd volume)),
    recordEntries_cons hd rfl (by simp)
      (reads_field (reads_list fun container _ => reads_container hd container))]
  rfl

theorem reads_claim (hd : d.Understands forms) (claim : Claim) :
    Reads forms (d.record (Claim.shape d)) claim.toDatum claim := by
  refine reads_record (fun path => ?_) rfl
  rw [recordEntries_cons hd rfl (by simp) (reads_field (reads_text hd claim.namespaceName)),
    recordEntries_cons hd rfl (by simp) (reads_field (reads_text hd claim.name)),
    recordEntries_cons hd rfl (by simp) (reads_field (reads_text hd claim.volumeName))]
  rfl

/-! ## Snapshots -/

/-- The lists of a snapshot are set after its time of capture. -/
theorem recordEntries_snapshot (hd : d.Understands forms) (snapshot : Snapshot) {seen : List String}
    (hseen : ∀ name ∈ seen, name = "capturedAt") (path : Path) :
    d.recordEntries (Snapshot.shape d) path ⟨snapshot.capturedAt, [], [], [], []⟩ seen
        (forms.entries [
          ("nodes", .list (snapshot.nodes.map Node.toDatum)),
          ("volumes", .list (snapshot.volumes.map Volume.toDatum)),
          ("pods", .list (snapshot.pods.map Pod.toDatum)),
          ("claims", .list (snapshot.claims.map Claim.toDatum))]) =
      pure (snapshot, "claims" :: "pods" :: "volumes" :: "nodes" :: seen) := by
  have hfresh : ∀ {name : String}, name ≠ "capturedAt" → name ∉ seen :=
    fun hne hmem => hne (hseen _ hmem)
  rw [recordEntries_cons hd rfl (hfresh (by simp))
      (reads_field (reads_list fun node _ => reads_node hd node)),
    recordEntries_cons hd rfl (by simp [hfresh])
      (reads_field (reads_list fun volume _ => reads_volume hd volume)),
    recordEntries_cons hd rfl (by simp [hfresh])
      (reads_field (reads_list fun pod _ => reads_pod hd pod)),
    recordEntries_cons hd rfl (by simp [hfresh])
      (reads_field (reads_list fun claim _ => reads_claim hd claim))]
  rfl

theorem reads_snapshot (hd : d.Understands forms) (snapshot : Snapshot) :
    Reads forms (d.record (Snapshot.shape d)) snapshot.toDatum snapshot := by
  obtain ⟨capturedAt, nodes, volumes, pods, claims⟩ := snapshot
  cases capturedAt with
  | none =>
      exact reads_record
        (fun path => recordEntries_snapshot hd ⟨none, nodes, volumes, pods, claims⟩ (by simp) path)
        rfl
  | some instant =>
      refine reads_record (fun path => ?_) rfl
      rw [Datum.optionalField, instantDatum, List.cons_append, List.nil_append,
        recordEntries_cons hd rfl (by simp)
          (reads_field (reads_optional hd (reads_timeStamp hd instant)))]
      exact recordEntries_snapshot hd ⟨some instant, nodes, volumes, pods, claims⟩ (by simp) path

end StorageSurvey.Inventory
