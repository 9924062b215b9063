import StorageSurvey.Json.Printer
import StorageSurvey.Text.Columns
import StorageSurvey.Yaml.Printer

/-!
# Output formats

A result is shown as a text for people or written in a data notation.  The text may be wide, with
more columns than usual.
-/

namespace StorageSurvey.Report

open StorageSurvey.Document

inductive OutputFormat
  | table
  /-- A table with more columns. -/
  | wide
  | json
  | yaml
  deriving DecidableEq, Repr

namespace OutputFormat

/-- Every format under the name by which it is asked for. -/
def named : List (String × OutputFormat) :=
  [("table", table), ("wide", wide), ("json", json), ("yaml", yaml)]

end OutputFormat

/-- The result with this value and this text, which is told whether to be wide. -/
def render (format : OutputFormat) (datum : Datum) (text : Bool → String) : String :=
  match format with
  | .table => text false
  | .wide => text true
  | .json => String.ofList (Json.pretty 0 datum)
  | .yaml => String.ofList (Yaml.document datum)

/-- The text of a result without items. -/
def noResources : String :=
  "No resources found"

/-- The texts with commas between them. -/
def joinOrNone (texts : List String) : String :=
  if texts.isEmpty then "<none>" else String.intercalate "," texts

/-- The table with this header and a row for each item. -/
def tableOf {α : Type} (header : List String) (row : α → List String) (items : List α) :
    Text.Columns where
  header
  rows := items.map row

/-- The table with a row for each item, if there are items. -/
def listing {α : Type} (header : List String) (row : α → List String) (items : List α) : String :=
  if items.isEmpty then noResources else (tableOf header row items).text

end StorageSurvey.Report
