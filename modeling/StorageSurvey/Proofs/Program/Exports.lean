import StorageSurvey.Proofs.Commands.Outcomes
import StorageSurvey.Proofs.Inventory.Records
import StorageSurvey.Proofs.Program.Printed

/-!
# Lists that are printed and read again

The lists of nodes and of volumes in JSON can be read as records again.  A volume is listed with
where it is attached, which is no field of a volume and is passed over.  What is read are the
records that the catalogs kept, and a catalog of what a catalog keeps is the same catalog.  So a
snapshot whose nodes and volumes are read from these lists has the same view, and every command
gives the same answer on it.
-/

namespace StorageSurvey

open StorageSurvey.Document StorageSurvey.Inventory StorageSurvey.Report StorageSurvey.Survey

/-! ## Reading lists of records -/

/-- Reads a list of records from a text. -/
def Json.readRecords {ρ : Type} (shape : Shape Json.Scalar (Except Fault) ρ) (text : String) :
    Except Fault (List ρ) := do
  let document := Json.Document.ofText text
  let records ← Json.dialect.list (Json.dialect.record shape) [] document.root
  if document.wellFormed then return records else throw .grammar

/-- Records are read from a printed list, if each of them is read from its item of the list. -/
theorem Json.readRecords_printed {ρ : Type} {shape : Shape Json.Scalar (Except Fault) ρ}
    {write : ρ → Datum} {records : List ρ}
    (hreads : ∀ record ∈ records,
      Dialect.Reads Json.forms (Json.dialect.record shape) (write record) record)
    (text : Bool → String) :
    Json.readRecords shape (Program.printed (render .json (.list (records.map write)) text)) =
      .ok records := by
  have hroot : Json.dialect.list (Json.dialect.record shape) []
      (Json.forms.tree (.list (records.map write))) = .ok records :=
    Dialect.reads_list hreads []
  simp only [Json.readRecords, Json.ofText_printed, hroot, if_true]
  rfl

/-- A volume is read from its summary, whose other field is passed over. -/
theorem Report.VolumeSummary.reads {σ : Type} {m : Type → Type} [Monad m] [MonadExceptOf Fault m]
    [LawfulMonad m] {d : Dialect σ m} {forms : ScalarForms σ} (hd : d.Understands forms)
    (summary : VolumeSummary) :
    Dialect.Reads forms (d.record (Volume.shape d)) summary.toDatum summary.volume := by
  have hentries : ∀ path,
      d.recordEntries (Volume.shape d) path (Volume.shape d).blank []
          (forms.entries (summary.volume.fields ++ [("state", .text summary.state)])) =
        pure (summary.volume,
          ["replicaSets", "status", "attachedOn", "sizeBytes", "name", "id"]) := by
    intro path
    rw [recordEntries_volume hd, Dialect.recordEntries_unknown hd rfl]
    rfl
  exact Dialect.reads_record_of_seen hentries rfl

/-! ## The view of what is kept -/

theorem Survey.Nodes.ofList_survivors (nodes : List Node) :
    Nodes.ofList (survivors Node.id nodes) = Nodes.ofList nodes := by
  rw [Nodes.ofList, Catalog.ofList_survivors]
  rfl

theorem Survey.Volumes.ofList_survivors (volumes : List Volume) :
    Volumes.ofList (survivors Volume.id volumes) = Volumes.ofList volumes := by
  rw [Volumes.ofList, Catalog.ofList_survivors]
  rfl

/-- The records that are hidden by later ones make no difference to a view. -/
theorem Survey.View.ofSnapshot_survivors (snapshot : Snapshot) :
    View.ofSnapshot { snapshot with
        nodes := survivors Node.id snapshot.nodes
        volumes := survivors Volume.id snapshot.volumes } =
      View.ofSnapshot snapshot := by
  simp only [View.ofSnapshot, Nodes.ofList_survivors, Volumes.ofList_survivors]

namespace Program

open StorageSurvey.Commands

/-! ## What is read from the printed lists -/

theorem readRecords_getNodes {snapshot : Snapshot} {showLabels : Bool} {output : Output}
    (h : getNodes (.ofSnapshot snapshot) ⟨.json, [], showLabels⟩ = .ok output) :
    Json.readRecords (Node.shape Json.dialect) (printed output.text) =
      .ok (survivors Node.id snapshot.nodes) := by
  rw [getNodes_ofSnapshot] at h
  cases h
  simp only [keptNodes_nil, nodesDatum]
  exact Json.readRecords_printed (fun node _ => reads_node Json.dialect_understands node) _

theorem readRecords_getVolumes {snapshot : Snapshot} {showLabels : Bool} {output : Output}
    (h : getVolumes (.ofSnapshot snapshot) ⟨.json, [], showLabels⟩ = .ok output) :
    Json.readRecords (Volume.shape Json.dialect) (printed output.text) =
      .ok (survivors Volume.id snapshot.volumes) := by
  rw [getVolumes_ofSnapshot] at h
  obtain ⟨-, rfl⟩ := unlessDefect_eq_ok_iff.mp h
  simp only [keptVolumes_nil, volumesDatum, List.map_map]
  exact Json.readRecords_printed
    (fun volume _ => (volumeSummary snapshot volume).reads Json.dialect_understands) _

/-- Nodes and volumes can be printed as lists in JSON and read again: the snapshot with what is read
gives the same answers to every request. -/
theorem dispatch_reread {snapshot : Snapshot} {nodes volumes : Output}
    {showLabels showLabels' : Bool}
    (hnodes : getNodes (.ofSnapshot snapshot) ⟨.json, [], showLabels⟩ = .ok nodes)
    (hvolumes : getVolumes (.ofSnapshot snapshot) ⟨.json, [], showLabels'⟩ = .ok volumes) :
    ∃ readNodes readVolumes,
      Json.readRecords (Node.shape Json.dialect) (printed nodes.text) = .ok readNodes ∧
      Json.readRecords (Volume.shape Json.dialect) (printed volumes.text) = .ok readVolumes ∧
      ∀ request, dispatch request { snapshot with nodes := readNodes, volumes := readVolumes } =
        dispatch request snapshot := by
  refine ⟨_, _, readRecords_getNodes hnodes, readRecords_getVolumes hvolumes, fun request => ?_⟩
  rw [dispatch, View.ofSnapshot_survivors, dispatch]

/-- A node and a volume that stand there twice, the second time with other values. -/
def overwritten : Snapshot where
  capturedAt := none
  nodes := [
    ⟨"n1", "old", "", "", "", [], .ok, .empty, none⟩,
    ⟨"n2", "h2", "", "", "", [], .ok, .empty, none⟩,
    ⟨"n1", "new \"h1\"", "", "", "", [⟨0, 1, 2⟩], .ok, .ofList [("b", "2"), ("a", "1")], some "1"⟩]
  volumes := [
    { Volume.blank with id := "1", name := "v" },
    { Volume.blank with id := "2", name := "w" },
    { Volume.blank with id := "1", name := "v", attachedOn := "n1" }]
  pods := []
  claims := [⟨"default", "c", "v"⟩]

theorem overwritten_reread :
    ∃ (nodes volumes : Output) (readNodes : List Node) (readVolumes : List Volume),
      getNodes (.ofSnapshot overwritten) ⟨.json, [], false⟩ = .ok nodes ∧
      getVolumes (.ofSnapshot overwritten) ⟨.json, [], false⟩ = .ok volumes ∧
      Json.readRecords (Node.shape Json.dialect) (printed nodes.text) = .ok readNodes ∧
      Json.readRecords (Volume.shape Json.dialect) (printed volumes.text) = .ok readVolumes ∧
      readNodes.map Node.hostname = ["new \"h1\"", "h2"] ∧
      readVolumes.map Volume.attachedOn = ["n1", ""] ∧
      ∀ request,
        dispatch request { overwritten with nodes := readNodes, volumes := readVolumes } =
          dispatch request overwritten := by
  have hnodes : getNodes (.ofSnapshot overwritten) ⟨.json, [], false⟩ = .ok _ := rfl
  have hvolumes := getVolumes_ofSnapshot overwritten ⟨.json, [], false⟩
  obtain ⟨readNodes, readVolumes, hreadNodes, hreadVolumes, hsame⟩ :=
    dispatch_reread hnodes hvolumes
  refine ⟨_, _, readNodes, readVolumes, hnodes, hvolumes, hreadNodes, hreadVolumes, ?_, ?_, hsame⟩
  · rw [readRecords_getNodes hnodes] at hreadNodes
    cases hreadNodes
    decide
  · rw [readRecords_getVolumes hvolumes] at hreadVolumes
    cases hreadVolumes
    decide

end Program

end StorageSurvey
