import StorageSurvey.Document.Reader
import StorageSurvey.Yaml.Plain
import StorageSurvey.Yaml.Tree

/-!
# Reading records from YAML

What YAML decides for the readers of records.  A text may be any scalar, and nothing at all stands
for a list, a table or a record without items.  A variant is its name, or a tag on nothing.

References are followed where the records ask for it.  So that a short text does not stand for an
endless amount of data, only as many of them are followed as a hundred times the events in the
document.
-/

namespace StorageSurvey.Yaml

open StorageSurvey.Document

/-- Reading counts down the references that may still be followed. -/
abbrev Reading := StateT Nat (Except Fault)

namespace Tag

def boolean : String := "tag:yaml.org,2002:bool"

def integer : String := "tag:yaml.org,2002:int"

def float : String := "tag:yaml.org,2002:float"

def null : String := "tag:yaml.org,2002:null"

/-- The name that a tag of one's own gives. -/
def ownName? (tag : String) : Option String :=
  match tag.toList with
  | '!' :: name => some (String.ofList name)
  | _ => none

end Tag

namespace Scalar

/-- What a plain scalar with this text is called. -/
def foundPlain (text : String) : Found :=
  match plain text with
  | .null => .null
  | .boolean value => .boolean value
  | .integer value =>
      if -Nat.pow 2 63 ≤ value ∧ value < UInt64.size then .integer value else .wideInteger value
  | .float value => .float value.text
  | .text => .text text

/-- What a scalar is called where it is not wanted.  A tag of the standard must fit the text. -/
def found (path : Path) (scalar : Scalar) : Except Fault Found :=
  let misfit (wanted : Wanted) : Except Fault Found :=
    .error (.contents path (.wrongValue (.text scalar.text) wanted))
  match scalar.tag with
  | none => .ok (if scalar.style = .plain then foundPlain scalar.text else .text scalar.text)
  | some tag =>
      if tag = Tag.boolean then match boolean? scalar.text with
        | some value => .ok (.boolean value)
        | none => misfit .boolean
      else if tag = Tag.integer then match integer? scalar.text.toList with
        | some _ => .ok (foundPlain scalar.text)
        | none => misfit .integer
      else if tag = Tag.float then match float? scalar.text.toList with
        | some value => .ok (.float value.text)
        | none => misfit .float
      else if tag = Tag.null then if isNull scalar.text then .ok .null else misfit .null
      else if (Tag.ownName? tag).isSome ∧ scalar.style = .plain then
        .ok (foundPlain scalar.text)
      else .ok (.text scalar.text)

/-- The natural number that a scalar stands for where one is wanted. -/
def integer? (scalar : Scalar) : Option Int :=
  if scalar.style = .plain ∨ (scalar.style = .literal ∧ scalar.tag = some Tag.integer) then
    match natural? scalar.text.toList with
    | some n => if n < UInt64.size then some n else none
    | none => none
  else none

/-- Whether nothing is written. -/
def isEmpty (scalar : Scalar) : Bool :=
  scalar.text == "" && scalar.style == .plain

/-- Whether a scalar stands for no value. -/
def isAbsent (path : Path) (scalar : Scalar) : Except Fault Bool :=
  if scalar.style ≠ .plain then .ok false
  else match scalar.tag with
    | none => .ok (scalar.text == "" || isNull scalar.text)
    | some tag =>
        if tag = Tag.null then
          if isNull scalar.text then .ok true
          else .error (.contents path (.wrongValue (.text scalar.text) .null))
        else .ok false

/-- Checks that nothing but a null stands beside the tag that names a variant. -/
def onlyNull (path : Path) (scalar : Scalar) : Except Fault Unit :=
  if scalar.style = .plain ∧ (scalar.text = "" ∨ isNull scalar.text) then .ok ()
  else .error (.contents path (.wrongValue (.text scalar.text) .null))

end Scalar

/-- The variant that a node names. -/
def variant (path : Path) (tree : Tree) : Reading (Variant Reading) :=
  let byTag (name : String) (finish : Reading Unit) : Reading (Variant Reading) :=
    pure ⟨name, path.dropLast, finish⟩
  let wrong (found : Found) (wanted : Wanted) {α : Type} : Reading α :=
    throw (.contents path (.wrongType found wanted))
  match tree with
  | .scalar scalar => match scalar.tag.bind Tag.ownName? with
      | some name => byTag name (ofExcept (scalar.onlyNull path))
      | none => pure ⟨scalar.text, path, pure ()⟩
  | .tagged tag (.list _ _) => match Tag.ownName? tag with
      | some name => byTag name (wrong .list .nothing)
      | none => wrong .list .variantTag
  | .tagged tag (.table _ _) => match Tag.ownName? tag with
      | some name => byTag name (wrong .table .nothing)
      | none => wrong .table .variantTag
  | .list _ _ => wrong .list .variantTag
  | .table _ _ => wrong .table .variantTag
  | _ => throw .grammar

namespace Document

/-- The fault with which the text of a document ends, if it does. -/
def fault? (document : Document) : Option Fault :=
  match document.ending with
  | .complete => none
  | .severalDocuments => some (.contents [] .severalDocuments)
  | .grammar => some .grammar
  | .unknownAnchor => some (.contents [] .unknownAnchor)

/-- The node that a reference stands for. -/
def referent (document : Document) (target : Nat) : Reading Tree := do
  match ← get with
  | 0 => throw (.contents [] .tooManyReferences)
  | left + 1 => do
      set left
      match document.nodes.lookup target with
      | some node => pure node
      | none => throw .grammar

/-- What YAML decides for the readers of records, in a document. -/
def dialect (document : Document) : Dialect Scalar Reading where
  referent := document.referent
  interruption := document.fault?.getD .grammar
  isEmpty := Scalar.isEmpty
  positional := false
  text? scalar := some scalar.text
  integer? := Scalar.integer?
  found := Scalar.found
  isAbsent := Scalar.isAbsent
  badKey path found wanted := .contents path (.wrongType found wanted)
  variant path tree := match tree with
    | .broken => throw (document.fault?.getD .grammar)
    | tree => variant path tree

/-- How many references are followed for each event in a document. -/
def referencesPerEvent : Nat := 100

end Document

/-- Reads a record from a text. -/
def read {ρ : Type} (shape : Document → Shape Scalar Reading ρ) (text : String) :
    Except Fault ρ := do
  let document := Document.ofText text
  let limit := document.root.eventCount * Document.referencesPerEvent
  let (value, _) ← (document.dialect.record (shape document) [] document.root).run limit
  match document.fault? with
  | some fault => throw fault
  | none => return value

end StorageSurvey.Yaml
