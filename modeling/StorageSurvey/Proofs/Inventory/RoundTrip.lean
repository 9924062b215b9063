import StorageSurvey.Inventory.SnapshotText
import StorageSurvey.Proofs.Inventory.Records
import StorageSurvey.Proofs.Json.Trees
import StorageSurvey.Proofs.Yaml.Understanding
import StorageSurvey.Report.Format

/-!
# Snapshots are read back from their texts

The text of a snapshot has the tree of the snapshot, in both notations, and the readers of records
take that tree for the snapshot.  Nothing is asked of the snapshot: its texts may hold any
characters, and its words any number that fits them.
-/

namespace StorageSurvey.Inventory

open StorageSurvey.Document StorageSurvey.Report

/-- A record that is read from the tree of a value is read from its text in JSON. -/
theorem read_pretty {ρ : Type} {shape : Shape Json.Scalar (Except Fault) ρ} {value : Datum}
    {result : ρ} (hreads : Dialect.Reads Json.forms (Json.dialect.record shape) value result) :
    Json.read shape (String.ofList (Json.pretty 0 value)) = .ok result := by
  have hroot : Json.dialect.record shape [] (Json.forms.tree value) = .ok result := hreads []
  simp only [Json.read, Json.ofText_pretty, hroot, if_true]
  rfl

/-- A record that is read from the tree of a value is read from its text in YAML, whatever may be
left of the references to follow. -/
theorem read_document {ρ : Type} {shape : Yaml.Document → Shape Yaml.Scalar Yaml.Reading ρ}
    {value : Datum} {result : ρ} (hcollection : value.isCollection = true)
    (hreads : ∀ document : Yaml.Document,
      Dialect.Reads Yaml.forms (document.dialect.record (shape document)) value result) :
    Yaml.read shape (String.ofList (Yaml.document value)) = .ok result := by
  have hroot (document : Yaml.Document) :
      document.dialect.record (shape document) [] (Yaml.forms.tree value) = pure result :=
    hreads document []
  simp only [Yaml.read, Yaml.ofText_document hcollection, hroot]
  rfl

/-- A snapshot is read back from its text in JSON. -/
theorem read_render_json (snapshot : Snapshot) (text : Bool → String) :
    Snapshot.read .json (render .json snapshot.toDatum text) = .ok snapshot := by
  have hread := read_pretty (reads_snapshot Json.dialect_understands snapshot)
  simp only [Snapshot.read, render, hread]
  rfl

/-- A snapshot is read back from its text in YAML. -/
theorem read_render_yaml (snapshot : Snapshot) (text : Bool → String) :
    Snapshot.read .yaml (render .yaml snapshot.toDatum text) = .ok snapshot := by
  have hcollection : snapshot.toDatum.isCollection = true := rfl
  have hread := read_document hcollection fun document =>
    reads_snapshot (Yaml.dialect_understands document) snapshot
  simp only [Snapshot.read, render, hread]
  rfl

end StorageSurvey.Inventory
