import Mathlib.Data.List.Forall2
import StorageSurvey.Proofs.Report.Alignment
import StorageSurvey.Proofs.Report.Decoding
import StorageSurvey.Report.Description
import StorageSurvey.Report.Listing

/-!
# Texts that show items

What a text shows can be said without the functions that write it: in data notation by the value
that is decoded from it, in a table by its columns, in a description by the blocks for its items.
The lemmas here lead from what is written to what is shown.
-/

namespace StorageSurvey.Report

open StorageSurvey.Document

variable {α β : Type}

/-! ## Formats -/

/-- Whether a text has these values in it if it is in data notation, or else can be read as
`readable` says. -/
structure Shows (format : OutputFormat) (values : List Value) (readable : String → Prop)
    (text : String) : Prop where
  json : format = .json → Json.decode text = some (.list values)
  yaml : format = .yaml → Yaml.decode text = some (.list values)
  readable : format = .table ∨ format = .wide → readable text

/-- What is made of the items and written is shown, if a written item has the value it should. -/
theorem shows_render {make : α → β} {write : β → Datum} {shown : α → Value}
    (hwrite : ∀ made, (write made).WellFormed)
    (hshown : ∀ item, (write (make item)).value = shown item) (items : List α)
    {readable : String → Prop} {text : String} (htext : readable text) (format : OutputFormat) :
    Shows format (items.map shown) readable
      (render format (.list ((items.map make).map write)) fun _ => text) := by
  have hitems : (Datum.list ((items.map make).map write)).WellFormed :=
    .ofItems fun made _ => hwrite made
  have hvalue : (Datum.list ((items.map make).map write)).value = .list (items.map shown) := by
    rw [Datum.value_list, List.map_map, ← funext hshown]
    rfl
  constructor
  · rintro rfl
    rw [decode_render_json hitems, hvalue]
  · rintro rfl
    rw [decode_render_yaml rfl hitems, hvalue]
  · rintro (rfl | rfl) <;> exact htext

/-! ## Tables -/

/-- Whether a text is a table with these columns that has a row for each item, or says that there
are no items. -/
structure Tabulates (columns : List (Column α)) (items : List α) (text : String) : Prop where
  text_of_nil : items = [] → text = "No resources found"
  laidOut : items ≠ [] → LaidOut (.ofItems columns items) items text

theorem tabulates_listing {columns : List (Column α)} {header : List String} {make : α → β}
    {row : β → List String} (h : InStep columns header fun item => row (make item))
    (hcolumns : columns ≠ []) (items : List α) :
    Tabulates columns items (listing header row (items.map make)) := by
  have hrows : tableOf header row (items.map make) =
      tableOf header (fun item => row (make item)) items := by
    rw [tableOf, List.map_map]
    rfl
  constructor
  · rintro rfl
    rfl
  · intro hitems
    rw [listing, if_neg (by simpa using hitems), hrows]
    exact laidOut_tableOf h hcolumns items

/-! ## Descriptions -/

/-- Whether a text has a block for each item with an empty line between two of them, or says that
there are no items. -/
structure Describes (block : α → String → Prop) (items : List α) (text : String) : Prop where
  text_of_nil : items = [] → text = "No resources found"
  blocks : items ≠ [] →
    ∃ parts, List.Forall₂ block items parts ∧ text = "\n".intercalate parts

theorem describes_blocks {block : α → String → Prop} {make : α → β} {write : β → String}
    (h : ∀ item, block item (write (make item))) (items : List α) :
    Describes block items (blocks ((items.map make).map write)) := by
  constructor
  · rintro rfl
    rfl
  · intro hitems
    refine ⟨(items.map make).map write, ?_, ?_⟩
    · rw [List.map_map, List.forall₂_map_right_iff, List.forall₂_same]
      exact fun item _ => h item
    · rw [Report.blocks, if_neg (by simpa using hitems)]

/-- The text of a single item is its block. -/
theorem Describes.block_of_singleton {block : α → String → Prop} {item : α} {text : String}
    (h : Describes block [item] text) : block item text := by
  obtain ⟨parts, hparts, rfl⟩ := h.blocks (List.cons_ne_nil item [])
  obtain ⟨part, _, hpart, hrest, rfl⟩ := List.forall₂_cons_left_iff.mp hparts
  cases hrest
  rwa [String.intercalate_singleton]

/-- A line whose label is filled up to the column of the values. -/
theorem fieldLine_eq (label filled : String)
    (h : label ++ ":" ++ String.ofList (List.replicate (16 - (label.length + 1)) ' ') = filled)
    (value : String) : fieldLine label value = filled ++ value ++ "\n" := by
  rw [← h]
  rfl

/-- Texts with commas between them, or a mark that there are none. -/
def joined (texts : List String) : String :=
  if texts = [] then "<none>" else ",".intercalate texts

theorem joinOrNone_eq_joined (texts : List String) : joinOrNone texts = joined texts := by
  cases texts <;> rfl

end StorageSurvey.Report
