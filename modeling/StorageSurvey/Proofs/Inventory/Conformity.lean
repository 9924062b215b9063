import Mathlib.Data.List.Induction
import StorageSurvey.Inventory.SnapshotText
import StorageSurvey.Proofs.Json.Records

/-!
# Which values are snapshots

The rules of the records of a snapshot, and that the readers of records follow them.  So a text that
writes a value is read as a snapshot exactly if the value conforms to these rules, and what is read
is what the value stands for.
-/

namespace StorageSurvey.Inventory

open StorageSurvey.Document StorageSurvey.Json

/-! ## Labels -/

theorem Labels.mem_insertEntry_iff {key value : String} {entries : List (String × String)}
    (hsorted : entries.Pairwise fun first second => first.1 < second.1) (other content : String) :
    (other, content) ∈ insertEntry key value entries ↔
      if other = key then content = value else (other, content) ∈ entries := by
  induction entries with
  | nil =>
      rw [insertEntry, List.mem_singleton, Prod.mk.injEq]
      grind
  | cons first rest ih =>
      obtain ⟨hfirst, hrest⟩ := List.pairwise_cons.mp hsorted
      have hrest := ih hrest
      unfold insertEntry
      grind

/-- Of several values for a key the last one holds. -/
theorem Labels.mem_ofList_iff (entries : List (String × String)) (key content : String) :
    (key, content) ∈ (Labels.ofList entries).entries ↔
      entries.reverse.lookup key = some content := by
  induction entries using List.reverseRecOn with
  | nil => simp [ofList, empty]
  | append_singleton entries entry ih =>
      have hinsert : Labels.ofList (entries ++ [entry]) =
          (Labels.ofList entries).insert entry.1 entry.2 := by
        rw [ofList, List.foldl_append]
        rfl
      rw [hinsert, insert, mem_insertEntry_iff (Labels.ofList entries).sorted, ih,
        List.reverse_append, List.reverse_singleton, List.singleton_append, List.lookup_cons]
      by_cases hkey : key = entry.1
      · simp [hkey, eq_comm]
      · simp [hkey, beq_false_of_ne hkey]

theorem Labels.ext_mem {first second : Labels}
    (h : ∀ key content, (key, content) ∈ first.entries ↔ (key, content) ∈ second.entries) :
    first = second := by
  obtain ⟨entries, hsorted⟩ := first
  obtain ⟨entries', hsorted'⟩ := second
  have hasymm : ∀ entry other : String × String, entry.1 < other.1 → ¬ other.1 < entry.1 :=
    fun _ _ => String.lt_asymm
  have hnodup : ∀ {list : List (String × String)},
      (list.Pairwise fun entry other => entry.1 < other.1) → list.Nodup := by
    intro list hpairwise
    refine hpairwise.imp fun {entry other} hlt heq => ?_
    rw [heq] at hlt
    exact String.lt_irrefl _ hlt
  have hperm : entries.Perm entries' :=
    (List.perm_ext_iff_of_nodup (hnodup hsorted) (hnodup hsorted')).mpr fun entry =>
      h entry.1 entry.2
  congr 1
  exact hperm.eq_of_pairwise (fun _ _ _ _ hlt hlt' => absurd hlt' (hasymm _ _ hlt)) hsorted
    hsorted'

/-- Labels are what the entries of a table say in the end. -/
theorem Labels.ofList_eq_iff (entries : List (String × String)) (labels : Labels) :
    Labels.ofList entries = labels ↔
      ∀ key content, (key, content) ∈ labels.entries ↔
        entries.reverse.lookup key = some content := by
  constructor
  · rintro rfl key content
    exact mem_ofList_iff entries key content
  · intro h
    exact ext_mem fun key content => (mem_ofList_iff entries key content).trans (h key content).symm

/-- A table of texts, of which the last one for a key holds. -/
def Labels.kind : Kind Labels where
  Means
    | .table entries, labels =>
        ∃ texts : List (String × String),
          entries = texts.map (fun text => (text.1, .text text.2)) ∧
            ∀ key content, (key, content) ∈ labels.entries ↔
              texts.reverse.lookup key = some content
    | _, _ => False
  Plain _ := True

theorem textEntries_eq_ok_iff (path : Path) (entries : List (String × Literal))
    (texts : List (String × String)) :
    dialect.textEntries path (entryTrees entries) = .ok texts ↔
      entries = texts.map fun text => (text.1, .text text.2) := by
  induction entries generalizing texts with
  | nil =>
      rw [entryTrees, Dialect.textEntries, pure_eq_ok_iff, eq_comm, eq_comm (a := []),
        List.map_eq_nil_iff]
  | cons entry entries ih =>
      obtain ⟨name, value⟩ := entry
      rw [entryTrees, Dialect.textEntries, key_eq, pure_bind]
      simp only [Dialect.text, bind_eq_ok_iff, textAs_eq_ok_iff, ih, pure_eq_ok_iff]
      constructor
      · rintro ⟨content, rfl, texts, rfl, rfl⟩
        rfl
      · intro h
        obtain ⟨text, texts, rfl, hentry, rfl⟩ := List.map_eq_cons_iff.mp h.symm
        cases hentry
        exact ⟨text.2, rfl, texts, rfl, rfl⟩

theorem Labels.follows : Follows (Labels.read dialect) Labels.kind := by
  intro path value _ labels
  rw [Labels.read, bind_eq_ok_iff, Dialect.textTable, content_tree, pure_bind]
  cases value with
  | table entries =>
      simp only [Literal.content, Dialect.complete, if_true, pure_bind, bind_pure,
        textEntries_eq_ok_iff, pure_eq_ok_iff, Labels.ofList_eq_iff]
      rfl
  | null | boolean _ | number _ | text _ | list _ =>
      refine iff_of_false ?_ id
      rintro ⟨_, hread, -⟩
      exact wrongType_ne_ok _ _ _ _ hread

/-! ## The rules of records

Each field has its name, the kind of its value, and the value it has where it is not written. -/

def Pool.rules : List (Rule Pool) := [
  ⟨"id", .word32, Pool.id, some 0⟩,
  ⟨"used", .word64, Pool.used, some 0⟩,
  ⟨"totalSize", .word64, Pool.totalSize, some 0⟩]

def Node.rules : List (Rule Node) := [
  ⟨"id", .text, Node.id, none⟩,
  ⟨"hostname", .text, Node.hostname, some ""⟩,
  ⟨"mgmtIp", .text, Node.managementIp, some ""⟩,
  ⟨"dataIp", .text, Node.dataIp, some ""⟩,
  ⟨"schedulerNodeName", .text, Node.schedulerName, some ""⟩,
  ⟨"pools", .list (.record Pool.rules), Node.pools, some []⟩,
  ⟨"status", .variant NodeStatus.name, Node.status, some .unknown⟩,
  ⟨"labels", Labels.kind, Node.labels, some .empty⟩,
  ⟨"version", .optional .text, Node.version, some none⟩]

def ReplicaPlacement.rules : List (Rule ReplicaPlacement) := [
  ⟨"nodeId", .text, ReplicaPlacement.nodeId, none⟩,
  ⟨"pool", .word32, ReplicaPlacement.pool, some 0⟩]

def ReplicaSet.rules : List (Rule ReplicaSet) := [
  ⟨"id", .word32, ReplicaSet.id, none⟩,
  ⟨"placements", .list (.record ReplicaPlacement.rules), ReplicaSet.placements, some []⟩,
  ⟨"haIncrease", .text, ReplicaSet.haIncrease, some ""⟩,
  ⟨"reAddOn", .list .text, ReplicaSet.reAddOn, some []⟩]

def Volume.rules : List (Rule Volume) := [
  ⟨"id", .text, Volume.id, none⟩,
  ⟨"name", .text, Volume.name, none⟩,
  ⟨"sizeBytes", .word64, Volume.size, some 0⟩,
  ⟨"attachedOn", .text, Volume.attachedOn, some ""⟩,
  ⟨"status", .variant VolumeStatus.name, Volume.status, some .unknown⟩,
  ⟨"replicaSets", .list (.record ReplicaSet.rules), Volume.replicaSets, some []⟩]

def ClaimVolume.rules : List (Rule ClaimVolume) := [
  ⟨"name", .text, ClaimVolume.name, none⟩,
  ⟨"claimName", .text, ClaimVolume.claimName, none⟩]

def Container.rules : List (Rule Container) := [
  ⟨"name", .text, Container.name, none⟩,
  ⟨"claims", .list .text, Container.claims, some []⟩]

def Pod.rules : List (Rule Pod) := [
  ⟨"namespace", .text, Pod.namespaceName, some ""⟩,
  ⟨"name", .text, Pod.name, none⟩,
  ⟨"claimVolumes", .list (.record ClaimVolume.rules), Pod.claimVolumes, some []⟩,
  ⟨"containers", .list (.record Container.rules), Pod.containers, some []⟩]

def Claim.rules : List (Rule Claim) := [
  ⟨"namespace", .text, Claim.namespaceName, some ""⟩,
  ⟨"name", .text, Claim.name, none⟩,
  ⟨"volumeName", .text, Claim.volumeName, none⟩]

def Snapshot.rules : List (Rule Snapshot) := [
  ⟨"capturedAt", .optional .timeStamp, Snapshot.capturedAt, some none⟩,
  ⟨"nodes", .list (.record Node.rules), Snapshot.nodes, some []⟩,
  ⟨"volumes", .list (.record Volume.rules), Snapshot.volumes, some []⟩,
  ⟨"pods", .list (.record Pod.rules), Snapshot.pods, some []⟩,
  ⟨"claims", .list (.record Claim.rules), Snapshot.claims, some []⟩]

def Snapshot.kind : Kind Snapshot :=
  .record rules

/-! ## The readers follow the rules -/

/-- Looking up a name gives what has the name. -/
theorem name_of_lookup {α : Type} {name : α → String} {all : List α} {content : String} {value : α}
    (h : (all.map fun value => (name value, value)).lookup content = some value) :
    content = name value := by
  induction all with
  | nil => cases h
  | cons first all ih =>
      rw [List.map_cons, List.lookup_cons] at h
      split at h
      · rename_i heq
        cases h
        exact beq_iff_eq.mp heq
      · exact ih h

theorem NodeStatus.lookup_named (content : String) (status : NodeStatus) :
    NodeStatus.named.lookup content = some status ↔ content = status.name := by
  refine ⟨name_of_lookup, ?_⟩
  rintro rfl
  cases status <;> rfl

theorem VolumeStatus.lookup_named (content : String) (status : VolumeStatus) :
    VolumeStatus.named.lookup content = some status ↔ content = status.name := by
  refine ⟨name_of_lookup, ?_⟩
  rintro rfl
  cases status <;> rfl

theorem Pool.obeys : Obeys (Pool.shape dialect) Pool.rules where
  nodup := by decide
  ext := by
    rintro ⟨⟩ ⟨⟩ h
    simpa [rules] using h
  shapes := by
    refine .cons (.of follows_word32 ?_) <| .cons (.of follows_word64 ?_) <|
      .cons (.of follows_word64 ?_) .nil
    all_goals simp [Rule.sets_iff, rules, shape, blank]

theorem Node.obeys : Obeys (Node.shape dialect) Node.rules where
  nodup := by decide
  ext := by
    rintro ⟨⟩ ⟨⟩ h
    simpa [rules] using h
  shapes := by
    refine .cons (.of follows_text ?_) <| .cons (.of follows_text ?_) <|
      .cons (.of follows_text ?_) <| .cons (.of follows_text ?_) <|
      .cons (.of follows_text ?_) <| .cons (.of (follows_list (follows_record Pool.obeys)) ?_) <|
      .cons (.of (follows_variantOf NodeStatus.lookup_named) ?_) <|
      .cons (.of Labels.follows ?_) <| .cons (.of (follows_optional follows_text) ?_) .nil
    all_goals simp [Rule.sets_iff, rules, shape, blank]

theorem ReplicaPlacement.obeys : Obeys (ReplicaPlacement.shape dialect) ReplicaPlacement.rules where
  nodup := by decide
  ext := by
    rintro ⟨⟩ ⟨⟩ h
    simpa [rules] using h
  shapes := by
    refine .cons (.of follows_text ?_) <| .cons (.of follows_word32 ?_) .nil
    all_goals simp [Rule.sets_iff, rules, shape, blank]

theorem ReplicaSet.obeys : Obeys (ReplicaSet.shape dialect) ReplicaSet.rules where
  nodup := by decide
  ext := by
    rintro ⟨⟩ ⟨⟩ h
    simpa [rules] using h
  shapes := by
    refine .cons (.of follows_word32 ?_) <|
      .cons (.of (follows_list (follows_record ReplicaPlacement.obeys)) ?_) <|
      .cons (.of follows_text ?_) <| .cons (.of (follows_list follows_text) ?_) .nil
    all_goals simp [Rule.sets_iff, rules, shape, blank]

theorem Volume.obeys : Obeys (Volume.shape dialect) Volume.rules where
  nodup := by decide
  ext := by
    rintro ⟨⟩ ⟨⟩ h
    simpa [rules] using h
  shapes := by
    refine .cons (.of follows_text ?_) <| .cons (.of follows_text ?_) <|
      .cons (.of follows_word64 ?_) <| .cons (.of follows_text ?_) <|
      .cons (.of (follows_variantOf VolumeStatus.lookup_named) ?_) <|
      .cons (.of (follows_list (follows_record ReplicaSet.obeys)) ?_) .nil
    all_goals simp [Rule.sets_iff, rules, shape, blank]

theorem ClaimVolume.obeys : Obeys (ClaimVolume.shape dialect) ClaimVolume.rules where
  nodup := by decide
  ext := by
    rintro ⟨⟩ ⟨⟩ h
    simpa [rules] using h
  shapes := by
    refine .cons (.of follows_text ?_) <| .cons (.of follows_text ?_) .nil
    all_goals simp [Rule.sets_iff, rules, shape]

theorem Container.obeys : Obeys (Container.shape dialect) Container.rules where
  nodup := by decide
  ext := by
    rintro ⟨⟩ ⟨⟩ h
    simpa [rules] using h
  shapes := by
    refine .cons (.of follows_text ?_) <| .cons (.of (follows_list follows_text) ?_) .nil
    all_goals simp [Rule.sets_iff, rules, shape]

theorem Pod.obeys : Obeys (Pod.shape dialect) Pod.rules where
  nodup := by decide
  ext := by
    rintro ⟨⟩ ⟨⟩ h
    simpa [rules] using h
  shapes := by
    refine .cons (.of follows_text ?_) <| .cons (.of follows_text ?_) <|
      .cons (.of (follows_list (follows_record ClaimVolume.obeys)) ?_) <|
      .cons (.of (follows_list (follows_record Container.obeys)) ?_) .nil
    all_goals simp [Rule.sets_iff, rules, shape, empty]

theorem Claim.obeys : Obeys (Claim.shape dialect) Claim.rules where
  nodup := by decide
  ext := by
    rintro ⟨⟩ ⟨⟩ h
    simpa [rules] using h
  shapes := by
    refine .cons (.of follows_text ?_) <| .cons (.of follows_text ?_) <|
      .cons (.of follows_text ?_) .nil
    all_goals simp [Rule.sets_iff, rules, shape]

theorem Snapshot.obeys : Obeys (Snapshot.shape dialect) Snapshot.rules where
  nodup := by decide
  ext := by
    rintro ⟨⟩ ⟨⟩ h
    simpa [rules] using h
  shapes := by
    refine .cons (.of (follows_optional follows_timeStamp) ?_) <|
      .cons (.of (follows_list (follows_record Node.obeys)) ?_) <|
      .cons (.of (follows_list (follows_record Volume.obeys)) ?_) <|
      .cons (.of (follows_list (follows_record Pod.obeys)) ?_) <|
      .cons (.of (follows_list (follows_record Claim.obeys)) ?_) .nil
    all_goals simp [Rule.sets_iff, rules, shape, blank]

/-! ## Snapshots from texts -/

/-- A text that writes a value is read as a snapshot exactly if the value stands for it. -/
theorem read_json_iff {value : Literal} {text : List Char} (hspells : Spells value text)
    (hplain : Snapshot.kind.Plain value) (snapshot : Snapshot) :
    Snapshot.read .json (String.ofList text) = .ok snapshot ↔
      Snapshot.kind.Means value snapshot := by
  have hroot : dialect.record (Snapshot.shape dialect) [] value.tree = .ok snapshot ↔
      Snapshot.kind.Means value snapshot :=
    follows_record Snapshot.obeys [] value hplain snapshot
  have hread : Json.read (Snapshot.shape dialect) (String.ofList text) =
      dialect.record (Snapshot.shape dialect) [] value.tree := by
    simp only [Json.read, ofText_of_spells hspells, if_true, bind_pure]
  unfold Snapshot.read
  simp only [hread]
  rw [← hroot]
  cases dialect.record (Snapshot.shape dialect) [] value.tree with
  | ok found => exact pure_eq_ok_iff.trans pure_eq_ok_iff.symm
  | error fault => exact iff_of_false (error_ne_ok _ _) (error_ne_ok _ _)

/-- A volume with one character given by its code unit, and with a field that is not known. -/
def sparse : Literal :=
  .table [("volumes", .list [.table [
    ("name", .text "v"), ("id", .text "1"), ("x", .list [.null])]])]

theorem read_json_sparse :
    Snapshot.kind.Plain sparse ∧
      Snapshot.read .json
          "\x7b\"volumes\": [\x7b\"name\":\"v\", \"id\":\"\\u0031\", \"x\":[null]\x7d]\x7d" =
        .ok { Snapshot.blank with volumes := [{ Volume.blank with id := "1", name := "v" }] } := by
  have hvolumes : SpellsName "volumes" "\"volumes\"".toList :=
    .mk blank_nil (spellsText_self rfl) blank_nil
  have hname : SpellsName "name" "\"name\"".toList :=
    .mk blank_nil (spellsText_self rfl) blank_nil
  have hid : SpellsName "id" " \"id\"".toList :=
    .mk blank_space (spellsText_self rfl) blank_nil
  have hother : SpellsName "x" " \"x\"".toList :=
    .mk blank_space (spellsText_self rfl) blank_nil
  have hv : Spells (.text "v") "\"v\"".toList :=
    .of_bare (.text (spellsText_self rfl))
  have hone : Spells (.text "1") "\"\\u0031\"".toList :=
    .of_bare (.text (.unit rfl rfl rfl .nil))
  have hlist : Spells (.list [.null]) "[null]".toList :=
    .of_bare (.list (.last (.of_bare .null)))
  have hvolume := Spells.of_bare (.table (.cons hname hv (.cons hid hone (.last hother hlist))))
  have hspells : Spells sparse _ :=
    .of_bare (.table (.last hvolumes (.mk blank_space (.list (.last hvolume)) blank_nil)))
  have hplain : Snapshot.kind.Plain sparse := by
    simp [Snapshot.kind, Kind.record, Snapshot.rules, Volume.rules, sparse, valuesOf, Kind.list,
      Kind.text]
  refine ⟨hplain, (read_json_iff hspells hplain _).mpr ?_⟩
  simp [Snapshot.kind, Kind.record, Snapshot.rules, Volume.rules, sparse, valuesOf, Kind.list,
    Kind.text, Rule.Allows, Snapshot.blank, Volume.blank]

end StorageSurvey.Inventory
