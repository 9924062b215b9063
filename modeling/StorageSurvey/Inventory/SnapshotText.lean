import StorageSurvey.Failure
import StorageSurvey.Inventory.Schema
import StorageSurvey.Json.Dialect
import StorageSurvey.Yaml.Dialect

/-!
# Snapshots in files

A file holds a snapshot in JSON if the extension of its name is `json` in any case, and otherwise
in YAML.
-/

namespace StorageSurvey.Inventory

open StorageSurvey.Document

/-- Reads a snapshot from a text. -/
def Snapshot.read (format : DataFormat) (text : String) : Except Failure Snapshot :=
  let result := match format with
    | .json => Json.read (Snapshot.shape Json.dialect) text
    | .yaml => Yaml.read (fun document => Snapshot.shape document.dialect) text
  result.mapError (.document format)

/-- The last component of a path, unless it leads upwards. -/
def fileName? (path : String) : Option (List Char) :=
  let components := (Text.split (· == '/') path.toList).filter fun component =>
    component ≠ [] ∧ component ≠ ['.']
  components.getLast?.filter (· ≠ ['.', '.'])

/-- What follows the last point of a file name, if something stands before that point. -/
def extension? (name : List Char) : Option (List Char) :=
  let extension := (name.reverse.takeWhile (· ≠ '.')).reverse
  if extension.length + 1 < name.length then some extension else none

/-- The format of the file at a path. -/
def formatOfPath (path : String) : DataFormat :=
  match (fileName? path).bind extension? with
  | some extension => if extension.map Char.toLower = "json".toList then .json else .yaml
  | none => .yaml

end StorageSurvey.Inventory
