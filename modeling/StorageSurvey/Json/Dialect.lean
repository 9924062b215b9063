import StorageSurvey.Document.Reader
import StorageSurvey.Json.Tree

/-!
# Reading records from JSON

What JSON decides for the readers of records.  A record may also be a list of its fields in order,
a variant may also be a table with its name as the only key and null as the value, and `null` is
the only sign of an absent value.
-/

namespace StorageSurvey.Json

open StorageSurvey.Document

namespace Scalar

/-- The text of a scalar, if it is a text with a value. -/
def text? : Scalar → Option String
  | .text value => value
  | _ => none

def integer? : Scalar → Option Int
  | .number literal => match literal.value with
      | .integer value => some value
      | .float _ _ => none
  | _ => none

/-- What a scalar is called where it is not wanted.  A text without a value, and a number beyond
double precision, are faults of the grammar where their value matters. -/
def found : Scalar → Except Fault Found
  | .null => .ok .null
  | .boolean value => .ok (.boolean value)
  | .number literal => match literal.value with
      | .integer value => .ok (.integer value)
      | .float negative (some magnitude) => .ok (.float (floatText negative magnitude))
      | .float _ none => .error .grammar
  | .text (some value) => .ok (.text value)
  | .text none => .error .grammar

end Scalar

/-- The dialect without variants, from which the reader of variants is built. -/
private def plainDialect : Dialect Scalar (Except Fault) where
  referent _ := throw .grammar
  interruption := .grammar
  isEmpty _ := false
  positional := true
  text? := Scalar.text?
  integer? := Scalar.integer?
  found _ scalar := scalar.found
  isAbsent _ scalar := .ok (scalar = .null)
  badKey _ _ _ := .grammar
  variant _ _ := throw .grammar

/-- Checks that the value beside the name of a variant is null and that nothing follows. -/
def onlyNull (path : Path) (value : Tree) (others : List (Tree × Tree)) (closed : Bool) :
    Except Fault Unit := do
  let content ← plainDialect.content value
  match content with
  | .scalar .null => if others.isEmpty ∧ closed then pure () else throw .grammar
  | _ => plainDialect.wrongType path content .nothing

/-- The variant that a text, or a table with one key, names. -/
def variant (path : Path) (tree : Tree) : Except Fault (Variant (Except Fault)) := do
  match ← plainDialect.content tree with
  | .scalar (.text (some name)) => return ⟨name, path, pure ()⟩
  | .table ((key, value) :: others) closed =>
      let name ← plainDialect.textAs .variantName path key
      return ⟨name, path, onlyNull path value others closed⟩
  | _ => throw .grammar

/-- What JSON decides for the readers of records. -/
def dialect : Dialect Scalar (Except Fault) :=
  { plainDialect with variant := variant }

/-- Reads a record from a text. -/
def read {ρ : Type} (shape : Shape Scalar (Except Fault) ρ) (text : String) : Except Fault ρ := do
  let document := Document.ofText text
  let value ← dialect.record shape [] document.root
  if document.wellFormed then return value else throw .grammar

end StorageSurvey.Json
