import StorageSurvey.Proofs.Document.Decoding
import StorageSurvey.Proofs.Json.Trees
import StorageSurvey.Proofs.Yaml.Understanding
import StorageSurvey.Report.Format

/-!
# Rendered values are decoded

A text is decoded without records in mind if it is one whole document and nothing else.  In both
notations a rendered value is decoded to the value itself.
-/

namespace StorageSurvey

open StorageSurvey.Document StorageSurvey.Report

/-- The value in a text that is one JSON value. -/
def Json.decode (text : String) : Option Value :=
  let document := Document.ofText text
  if document.wellFormed then dialect.value? document.root else none

/-- The value in a text that is one YAML document. -/
def Yaml.decode (text : String) : Option Value :=
  let document := Document.ofText text
  if document.ending = .complete then document.dialect.value? document.root else none

namespace Report

variable {datum : Datum}

theorem decode_render_json (h : datum.WellFormed) (text : Bool → String) :
    Json.decode (render .json datum text) = some datum.value := by
  have hvalue := Json.dialect_understands.value?_tree h
  simp only [Json.decode, render, Json.ofText_pretty, hvalue, if_true]

theorem decode_render_yaml (hcollection : datum.isCollection = true) (h : datum.WellFormed)
    (text : Bool → String) : Yaml.decode (render .yaml datum text) = some datum.value := by
  have hvalue (document : Yaml.Document) := (Yaml.dialect_understands document).value?_tree h
  simp only [Yaml.decode, render, Yaml.ofText_document hcollection, hvalue, if_true]

end Report

end StorageSurvey
