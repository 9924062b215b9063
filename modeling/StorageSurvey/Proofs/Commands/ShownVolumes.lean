import StorageSurvey.Proofs.Commands.Outcomes
import StorageSurvey.Proofs.Report.Results
import StorageSurvey.Proofs.Report.Showing

/-!
# What the volume commands show

What is listed of a volume, and how it is described, is said here without the functions that write
it: by the entries of the value that is decoded, the columns of a table and the lines of a block,
all of them spelled out.  The outcome of a command is then which volumes it keeps, which of their
defects it fails with, and that its text shows those volumes and no others.
-/

namespace StorageSurvey.Commands

open StorageSurvey.Document StorageSurvey.Inventory StorageSurvey.Report StorageSurvey.Survey

/-! ## Volumes as they are shown -/

/-- The text for where a volume is attached. -/
def attachedText (nodes : List Node) (volume : Volume) : String :=
  if volume.attachedOn = "" then "Detached" else "on " ++ hostnameOf nodes volume.attachedOn

/-- The texts for the placements in a replica set. -/
def placementTexts (nodes : List Node) (set : ReplicaSet) : List String :=
  set.placements.map fun placement =>
    hostnameOf nodes placement.nodeId ++ " (Pool " ++ toString placement.pool.toNat ++ ")"

def claimNames (claims : List Claim) : List String :=
  claims.map fun claim => claim.namespaceName ++ "/" ++ claim.name

/-- The entries for a volume in data notation. -/
def volumeEntries (volume : Volume) : List (String × Value) := [
  ("id", .text volume.id),
  ("name", .text volume.name),
  ("sizeBytes", .natural volume.size.toNat),
  ("attachedOn", .text volume.attachedOn),
  ("status", .text volume.status.name),
  ("replicaSets", .list (volume.replicaSets.map fun set => .record [
    ("id", .natural set.id.toNat),
    ("placements", .list (set.placements.map fun placement => .record [
      ("nodeId", .text placement.nodeId),
      ("pool", .natural placement.pool.toNat)])),
    ("haIncrease", .text set.haIncrease),
    ("reAddOn", .texts set.reAddOn)]))]

/-- A volume in a list. -/
def listedVolume (nodes : List Node) (volume : Volume) : Value :=
  .record (volumeEntries volume ++ [("state", .text (attachedText nodes volume))])

/-- The columns of a list of volumes. -/
def volumeColumns (nodes : List Node) : List (Column Volume) := [
  ⟨"Id", Volume.id⟩,
  ⟨"Name", Volume.name⟩,
  ⟨"Size", fun volume => ByteSize.text volume.size⟩,
  ⟨"Status", fun volume => volume.status.text⟩,
  ⟨"State", attachedText nodes⟩,
  ⟨"Replicas", fun volume => toString volume.replicaSets.length⟩]

/-- A replica set in the description of its volume. -/
def describedSet (nodes : List Node) (set : ReplicaSet) : Value :=
  .record [
    ("Id", .natural set.id.toNat),
    ("NodeInfo", .texts (placementTexts nodes set)),
    ("HaIncrease", .text set.haIncrease),
    ("ReAddOn", .texts set.reAddOn)]

/-- A volume in a list of descriptions. -/
def describedVolume (snapshot : Snapshot) (volume : Volume) : Value :=
  let bound := claimsBoundTo snapshot.claims volume.name
  .record (volumeEntries volume ++ [
    ("state", .text (attachedText snapshot.nodes volume)),
    ("replication", .record [
      ("Rsi", .list (volume.replicaSets.map (describedSet snapshot.nodes))),
      ("Status", .text volume.status.text)]),
    ("claims", .texts (claimNames bound)),
    ("pods", .texts (podNames snapshot.pods bound))])

/-- The columns of the replica sets of a volume. -/
def replicaSetColumns (nodes : List Node) : List (Column ReplicaSet) := [
  ⟨"Set", fun set => toString set.id.toNat⟩,
  ⟨"Nodes", fun set => joined (placementTexts nodes set)⟩,
  ⟨"HA Increase", fun set => if set.haIncrease = "" then "-" else set.haIncrease⟩,
  ⟨"Re-add On", fun set => joined set.reAddOn⟩]

/-- The lines of a description before the replica sets. -/
def volumeLines (snapshot : Snapshot) (volume : Volume) : String :=
  let bound := claimsBoundTo snapshot.claims volume.name
  "Name:           " ++ volume.name ++ "\n" ++
  "Id:             " ++ volume.id ++ "\n" ++
  "Size:           " ++ ByteSize.text volume.size ++ "\n" ++
  "Status:         " ++ volume.status.text ++ "\n" ++
  "State:          " ++ attachedText snapshot.nodes volume ++ "\n" ++
  "Claims:         " ++ joined (claimNames bound) ++ "\n" ++
  "Pods:           " ++ joined (podNames snapshot.pods bound) ++ "\n"

/-- Whether a text is the block that describes a volume. -/
structure VolumeBlock (snapshot : Snapshot) (volume : Volume) (text : String) : Prop where
  without_sets : volume.replicaSets = [] →
    text = volumeLines snapshot volume ++ "Replica Sets:   <none>\n"
  with_sets : volume.replicaSets ≠ [] → ∃ table,
    LaidOut (.ofItems (replicaSetColumns snapshot.nodes) volume.replicaSets) volume.replicaSets
      table ∧
    text = volumeLines snapshot volume ++ "Replica Sets:\n" ++ table ++ "\n"

/-! ## What is written of a volume -/

theorem text_stateIn (nodes : List Node) (volume : Volume) :
    (stateIn nodes volume).text = attachedText nodes volume := by
  unfold stateIn attachedText
  split <;> rfl

theorem value_fields_volume (volume : Volume) :
    volume.fields.map (fun field => (field.1, field.2.value)) = volumeEntries volume := by
  simp [Volume.fields, volumeEntries, ReplicaSet.toDatum, ReplicaPlacement.toDatum,
    Datum.value_text, Datum.value_natural, Datum.value_texts, Datum.value_list, Datum.value_record]

theorem value_volumeSummary (snapshot : Snapshot) (volume : Volume) :
    (volumeSummary snapshot volume).toDatum.value = listedVolume snapshot.nodes volume := by
  rw [VolumeSummary.toDatum, Datum.value_record, List.map_append, volumeSummary,
    value_fields_volume, text_stateIn]
  rfl

theorem value_replicaSetIn (nodes : List Node) (set : ReplicaSet) :
    (replicaSetIn nodes set).toDatum.value = describedSet nodes set := by
  rw [ReplicaSetInfo.toDatum, Datum.value_record]
  simp only [List.map_cons, List.map_nil, Datum.value_texts]
  rfl

theorem value_volumeDescription (snapshot : Snapshot) (volume : Volume) :
    (volumeDescription snapshot volume).toDatum.value = describedVolume snapshot volume := by
  rw [VolumeDescription.toDatum, Datum.value_record, List.map_append, volumeDescription,
    value_fields_volume, text_stateIn]
  simp only [List.map_cons, List.map_nil, topologyIn, ReplicationInfo.toDatum, Datum.value_record,
    Datum.value_list, Datum.value_texts, List.map_map, Function.comp_def, value_replicaSetIn]
  rfl

theorem inStep_volumeColumns (snapshot : Snapshot) :
    InStep (volumeColumns snapshot.nodes) ["Id", "Name", "Size", "Status", "State", "Replicas"]
      fun volume => (volumeSummary snapshot volume).row where
  header_eq := rfl
  row_eq volume := by
    rw [VolumeSummary.row, volumeSummary, text_stateIn]
    rfl

theorem inStep_replicaSetColumns (nodes : List Node) :
    InStep (replicaSetColumns nodes) ["Set", "Nodes", "HA Increase", "Re-add On"]
      fun set => replicaSetRow (replicaSetIn nodes set) where
  header_eq := rfl
  row_eq set := by
    rw [replicaSetRow, joinOrNone_eq_joined, joinOrNone_eq_joined]
    rfl

/-- A description is the lines of the volume and then its replica sets. -/
theorem text_volumeDescription (snapshot : Snapshot) (volume : Volume) :
    (volumeDescription snapshot volume).text = volumeLines snapshot volume ++
      if volume.replicaSets.isEmpty then "Replica Sets:   <none>\n"
      else "Replica Sets:\n" ++
        (replicaSetTable (volume.replicaSets.map (replicaSetIn snapshot.nodes))).text ++ "\n" := by
  have hnone : fieldLine "Replica Sets" "<none>" = "Replica Sets:   <none>\n" := by decide
  unfold VolumeDescription.text volumeLines
  simp only [volumeDescription, topologyIn, List.isEmpty_map, text_stateIn, joinOrNone_eq_joined,
    claimNames, Claim.qualifiedName, qualified]
  rw [hnone, fieldLine_eq "Name" "Name:           " (by decide),
    fieldLine_eq "Id" "Id:             " (by decide),
    fieldLine_eq "Size" "Size:           " (by decide),
    fieldLine_eq "Status" "Status:         " (by decide),
    fieldLine_eq "State" "State:          " (by decide),
    fieldLine_eq "Claims" "Claims:         " (by decide),
    fieldLine_eq "Pods" "Pods:           " (by decide)]
  simp only [String.append_assoc]

theorem volumeBlock_text (snapshot : Snapshot) (volume : Volume) :
    VolumeBlock snapshot volume (volumeDescription snapshot volume).text := by
  rw [text_volumeDescription]
  constructor
  · intro hsets
    rw [hsets]
    rfl
  · intro hsets
    refine ⟨_, laidOut_tableOf (inStep_replicaSetColumns snapshot.nodes) (List.cons_ne_nil _ _)
      volume.replicaSets, ?_⟩
    rw [if_neg (by simpa using hsets), replicaSetTable, tableOf, List.map_map,
      String.append_assoc, String.append_assoc, String.append_assoc]
    rfl

/-! ## Outcomes -/

section

variable (snapshot : Snapshot) (kept : List Volume) (format : OutputFormat)

theorem shows_volumeSummaries :
    Shows format (kept.map (listedVolume snapshot.nodes))
      (Tabulates (volumeColumns snapshot.nodes) kept)
      (render format (volumesDatum (kept.map (volumeSummary snapshot)))
        fun _ => volumesText (kept.map (volumeSummary snapshot))) :=
  shows_render VolumeSummary.wellFormed (value_volumeSummary snapshot) kept
    (tabulates_listing (inStep_volumeColumns snapshot) (List.cons_ne_nil _ _) kept) format

theorem shows_volumeDescriptions :
    Shows format (kept.map (describedVolume snapshot)) (Describes (VolumeBlock snapshot) kept)
      (render format (.list ((kept.map (volumeDescription snapshot)).map (·.toDatum)))
        fun _ => blocks ((kept.map (volumeDescription snapshot)).map (·.text))) :=
  shows_render VolumeDescription.wellFormed (value_volumeDescription snapshot) kept
    (describes_blocks (volumeBlock_text snapshot) kept) format

end

/-- The volume commands fail with the first defect of a wanted volume, which is its attachment
before it is a placement; `get` looks only at attachments.  Otherwise they show the wanted volumes,
in their order.  The other volumes can be taken away without a difference. -/
theorem volume_outcomes (snapshot : Snapshot) (invocation : Invocation) :
    let kept := keptVolumes snapshot invocation.identifiers
    let unmatched :=
      missing? namesVolume invocation.identifiers (survivors Volume.id snapshot.volumes)
    Outcome (getVolumes (.ofSnapshot snapshot) invocation)
        (kept.findSome? (attachmentDefect? snapshot.nodes)) unmatched
        (Shows invocation.format (kept.map (listedVolume snapshot.nodes))
          (Tabulates (volumeColumns snapshot.nodes) kept)) ∧
      Outcome (describeVolumes (.ofSnapshot snapshot) invocation)
        (kept.findSome? (volumeDefect? snapshot.nodes)) unmatched
        (Shows invocation.format (kept.map (describedVolume snapshot))
          (Describes (VolumeBlock snapshot) kept)) ∧
      getVolumes (.ofSnapshot { snapshot with volumes := kept }) invocation =
        getVolumes (.ofSnapshot snapshot) invocation ∧
      describeVolumes (.ofSnapshot { snapshot with volumes := kept }) invocation =
        describeVolumes (.ofSnapshot snapshot) invocation := by
  intro kept unmatched
  have hkept := keptVolumes_of_kept snapshot invocation.identifiers
  have hunmatched : missing? namesVolume invocation.identifiers kept = unmatched :=
    missing?_filter_isWanted _ _
  refine ⟨?_, ?_, ?_, ?_⟩
  · rw [getVolumes_ofSnapshot, ← hunmatched]
    exact outcome_unlessDefect (shows_volumeSummaries snapshot kept invocation.format)
  · rw [describeVolumes_ofSnapshot, ← hunmatched]
    exact outcome_unlessDefect (shows_volumeDescriptions snapshot kept invocation.format)
  · rw [getVolumes_ofSnapshot, getVolumes_ofSnapshot, hkept]
    rfl
  · rw [describeVolumes_ofSnapshot, describeVolumes_ofSnapshot, hkept]
    rfl

/-- A volume that is recorded twice, and two that name a node which is not known: one has a copy
there, and the other is attached there. -/
def attachedVolumes : Snapshot where
  capturedAt := none
  nodes := [{ Node.blank with id := "a", hostname := "h1" },
    { Node.blank with id := "b", hostname := "h2" }]
  volumes := [{ Volume.blank with id := "1", name := "old" },
    ⟨"2", "w", 0, "", .unknown, [⟨3, [⟨"b", 0⟩, ⟨"c", 1⟩], "", []⟩]⟩,
    { Volume.blank with id := "3", name := "u", attachedOn := "c" },
    ⟨"1", "v", 10737418240, "a", .up, [⟨0, [⟨"a", 0⟩, ⟨"b", 1⟩], "", ["b"]⟩]⟩]
  pods := [⟨"ns", "p", [⟨"data", "c"⟩], []⟩]
  claims := [⟨"ns", "c", "v"⟩]

theorem attachedVolumes_shown :
    (∃ output, getVolumes (.ofSnapshot attachedVolumes) ⟨.table, ["v", "x"], false⟩ = .ok output ∧
      output.unmatched = some (.noMatch "x") ∧
      Text.lines output.text.toList =
        [" Id  Name  Size      Status  State  Replicas ".toList,
          " 1   v     10.0 GiB  UP      on h1  1        ".toList]) ∧
    (∃ output, getVolumes (.ofSnapshot attachedVolumes) ⟨.json, ["v"], false⟩ = .ok output ∧
      Json.decode output.text = some (.list [.record [
        ("id", .text "1"), ("name", .text "v"), ("sizeBytes", .natural 10737418240),
        ("attachedOn", .text "a"), ("status", .text "Up"),
        ("replicaSets", .list [.record [
          ("id", .natural 0),
          ("placements", .list [
            .record [("nodeId", .text "a"), ("pool", .natural 0)],
            .record [("nodeId", .text "b"), ("pool", .natural 1)]]),
          ("haIncrease", .text ""), ("reAddOn", .texts ["b"])]]),
        ("state", .text "on h1")]])) ∧
    (∃ output table,
      describeVolumes (.ofSnapshot attachedVolumes) ⟨.table, ["v"], false⟩ = .ok output ∧
      output.text = "Name:           v\nId:             1\nSize:           10.0 GiB\n" ++
        "Status:         UP\nState:          on h1\nClaims:         ns/c\n" ++
        "Pods:           ns/p\n" ++ "Replica Sets:\n" ++ table ++ "\n" ∧
      Text.lines table.toList =
        [" Set  Nodes                    HA Increase  Re-add On ".toList,
          " 0    h1 (Pool 0),h2 (Pool 1)  -            b         ".toList]) ∧
    getVolumes (.ofSnapshot attachedVolumes) ⟨.table, [], false⟩ =
      .error (.danglingAttachment "u" "c") ∧
    describeVolumes (.ofSnapshot attachedVolumes) ⟨.table, [], false⟩ =
      .error (.danglingReplica "w" 3 "c") := by
  have hlist := (volume_outcomes attachedVolumes ⟨.table, ["v", "x"], false⟩).1
  have hjson := (volume_outcomes attachedVolumes ⟨.json, ["v"], false⟩).1
  have hdescribe := (volume_outcomes attachedVolumes ⟨.table, ["v"], false⟩).2.1
  have hall := volume_outcomes attachedVolumes ⟨.table, [], false⟩
  have hkept : keptVolumes attachedVolumes ["v"] = [attachedVolumes.volumes[3]] := by decide
  refine ⟨?list, ?json, ?describe, hall.1.error _ (by decide), hall.2.1.error _ (by decide)⟩
  case list =>
    obtain ⟨output, houtput, hunmatched, hshows⟩ := hlist.output (by decide)
    have hlaid := (hshows.readable (.inl rfl)).laidOut (by decide)
    exact ⟨output, houtput, hunmatched.trans (by decide), hlaid.lines_eq.trans (by decide +kernel)⟩
  case json =>
    obtain ⟨output, houtput, -, hshows⟩ := hjson.output (by decide)
    refine ⟨output, houtput, ?_⟩
    rw [hshows.json rfl, hkept]
    rfl
  case describe =>
    obtain ⟨output, houtput, -, hshows⟩ := hdescribe.output (by decide)
    have hdescribes := hshows.readable (.inl rfl)
    rw [hkept] at hdescribes
    obtain ⟨table, hlaid, htext⟩ := hdescribes.block_of_singleton.with_sets (by decide)
    have hlines : volumeLines attachedVolumes attachedVolumes.volumes[3] =
        "Name:           v\nId:             1\nSize:           10.0 GiB\n" ++
          "Status:         UP\nState:          on h1\nClaims:         ns/c\n" ++
          "Pods:           ns/p\n" := by decide +kernel
    refine ⟨output, table, houtput, ?_, hlaid.lines_eq.trans (by decide +kernel)⟩
    rw [htext, hlines]

end StorageSurvey.Commands
