import StorageSurvey.Text.Quoted
import StorageSurvey.Time.Reader

/-!
# Faults of documents

Why a document could not be read: its text breaks the grammar of the notation, or its contents do
not fit the records that are read from it.  A fault of the contents has a place, as the steps from
the root, and a cause.  All wording is in this module.
-/

namespace StorageSurvey.Document

/-- The notations in which documents are written. -/
inductive DataFormat
  | json
  | yaml
  deriving DecidableEq, Repr

/-- One step from a node to a node inside it. -/
inductive Step
  | field (name : String)
  | item (index : Nat)
  /-- The value of a key that has no text of its own. -/
  | unnamed
  deriving DecidableEq, Repr

/-- The steps from the root to a node. -/
abbrev Path := List Step

namespace Path

/-- The place after one more step, given the text for the place before it. -/
private def addStep (before : String) : Step → String
  | .field name => if before = "" then name else before ++ "." ++ name
  | .item index => (if before = "" then "." else before) ++ s!"[{index}]"
  | .unnamed => if before = "" then "?" else before ++ ".?"

/-- The text for a place; the root has none. -/
def text (path : Path) : String :=
  path.foldl addStep ""

end Path

/-- What stood in the document instead of what was wanted. -/
inductive Found
  | null
  | boolean (value : Bool)
  | integer (value : Int)
  /-- An integer beyond 64 bits. -/
  | wideInteger (value : Int)
  | float (digits : String)
  | text (value : String)
  | list
  | table
  deriving DecidableEq, Repr

/-- What a reader wanted to find. -/
inductive Wanted
  | text
  | natural (bits : Nat)
  | list
  | table
  | record (name : String)
  | timeStamp
  | fieldName
  | variantName
  | variantTag
  | boolean
  | integer
  | float
  | null
  | nothing
  deriving DecidableEq, Repr

/-- Why contents do not fit. -/
inductive Cause
  | missingField (name : String)
  | duplicateField (name : String)
  | unknownVariant (name : String) (known : List String)
  | wrongType (found : Found) (wanted : Wanted)
  | wrongValue (found : Found) (wanted : Wanted)
  /-- A record written as a list that ends before the required field at `index`. -/
  | tooShort (index : Nat) (record : String) (size : Nat)
  | badTime (fault : Time.TimeFault)
  | unknownAnchor
  | tooManyReferences
  | severalDocuments
  deriving DecidableEq, Repr

/-- Why a document could not be read. -/
inductive Fault
  | grammar
  | contents (path : Path) (cause : Cause)
  deriving DecidableEq, Repr

/-! ## Wording -/

def Found.message (form : DataFormat) : Found → String
  | .null => match form with
      | .json => "null"
      | .yaml => "unit value"
  | .boolean value => if value then "boolean `true`" else "boolean `false`"
  | .integer value => s!"integer `{value}`"
  | .wideInteger value =>
      if 0 ≤ value then s!"integer `{value}` as u128" else s!"integer `{value}` as i128"
  | .float digits => s!"floating point `{digits}`"
  | .text value => "string " ++ Text.quoted value
  | .list => "sequence"
  | .table => "map"

def Wanted.message : Wanted → String
  | .text => "a string"
  | .natural bits => s!"u{bits}"
  | .list => "a sequence"
  | .table => "a map"
  | .record name => s!"struct {name}"
  | .timeStamp => "an RFC 3339 formatted date and time string"
  | .fieldName => "field identifier"
  | .variantName => "variant identifier"
  | .variantTag => "a YAML tag starting with '!'"
  | .boolean => "a boolean"
  | .integer => "an integer"
  | .float => "a float"
  | .null => "null"
  | .nothing => "unit"

def Cause.message (form : DataFormat) : Cause → String
  | .missingField name => s!"missing field `{name}`"
  | .duplicateField name => s!"duplicate field `{name}`"
  | .unknownVariant name known =>
      let names := String.intercalate ", " (known.map fun k => s!"`{k}`")
      s!"unknown variant `{name}`, expected one of {names}"
  | .wrongType found wanted => s!"invalid type: {found.message form}, expected {wanted.message}"
  | .wrongValue found wanted => s!"invalid value: {found.message form}, expected {wanted.message}"
  | .tooShort index record size =>
      s!"invalid length {index}, expected struct {record} with {size} elements"
  | .badTime fault => fault.message
  | .unknownAnchor => "unknown anchor"
  | .tooManyReferences => "repetition limit exceeded"
  | .severalDocuments =>
      "deserializing from YAML containing more than one document is not supported"

/-- What is said of contents that do not fit; only one of the notations names the place. -/
def contentsMessage (form : DataFormat) (path : Path) (cause : Cause) : String :=
  match form with
  | .json => cause.message form
  | .yaml => if path.isEmpty then cause.message form
      else s!"{path.text}: {cause.message form}"

end StorageSurvey.Document
