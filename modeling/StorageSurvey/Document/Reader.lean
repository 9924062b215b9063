import StorageSurvey.Document.Fault
import StorageSurvey.Document.Tree

/-!
# Reading records from documents

Readers of texts, numbers, lists, tables, records and named variants, written once for every
notation.  What a notation decides about its scalars, and how it finds the node that a reference
stands for, is a `Dialect`; the readers work in any monad in which the dialect can follow
references and faults can be thrown.

A reader goes through a tree in the order of the text and stops at the first fault.  A record
reports a field that is there twice at its second key, and a required field that is missing when
the record ends, in the order in which the fields are declared.
-/

namespace StorageSurvey.Document

variable {σ : Type} {m : Type → Type}

/-- A named variant as it was found. -/
structure Variant (m : Type → Type) where
  name : String
  /-- The place at which an unknown name is reported. -/
  path : Path
  /-- The check that nothing but the name was given, made once the name is known. -/
  finish : m Unit

/-- What a notation decides. -/
structure Dialect (σ : Type) (m : Type → Type) where
  /-- The node that a reference stands for. -/
  referent : Nat → m (Tree σ)
  /-- The fault at which the text broke off, if it did. -/
  interruption : Fault
  /-- Whether a scalar stands for a list or table without items. -/
  isEmpty : σ → Bool
  /-- Whether a list of its fields in order stands for a record. -/
  positional : Bool
  text? : σ → Option String
  /-- The value of a scalar that can stand where a number is wanted. -/
  integer? : σ → Option Int
  /-- What a scalar at the given place is called where it is not wanted. -/
  found : Path → σ → Except Fault Found
  /-- Whether a scalar stands for no value, in a record at the given place. -/
  isAbsent : Path → σ → Except Fault Bool
  /-- What is wrong with a node that cannot be a key, where `Wanted` was to stand. -/
  badKey : Path → Found → Wanted → Fault
  /-- The variant that a node names, at the given place. -/
  variant : Path → Tree σ → m (Variant m)

/-- A reader takes the place of a node and the node. -/
abbrev Reader (σ : Type) (m : Type → Type) (α : Type) := Path → Tree σ → m α

variable [Monad m] [MonadExceptOf Fault m]

namespace Dialect

variable (d : Dialect σ m)

/-- The node that a reference stands for, or the node itself. -/
def resolve : Tree σ → m (Tree σ)
  | .alias target => d.referent target
  | tree => pure tree

/-- What a node holds. -/
def content (tree : Tree σ) : m (Content σ) := do
  match (← d.resolve tree).content? with
  | some content => pure content
  | none => throw d.interruption

def describe (path : Path) : Content σ → m Found
  | .scalar value => ofExcept (d.found path value)
  | .list _ _ => pure .list
  | .table _ _ => pure .table

def wrongType {α : Type} (path : Path) (content : Content σ) (wanted : Wanted) : m α := do
  let found ← d.describe path content
  throw (.contents path (.wrongType found wanted))

/-- Fails where the text broke off. -/
def complete (closed : Bool) : m Unit :=
  if closed then pure () else throw d.interruption

/-! ## Scalars -/

/-- Reads a text, called `wanted` where something else stands. -/
def textAs (wanted : Wanted) : Reader σ m String := fun path tree => do
  let content ← d.content tree
  match content with
  | .scalar value => match d.text? value with
      | some text => pure text
      | none => d.wrongType path content wanted
  | _ => d.wrongType path content wanted

def text : Reader σ m String :=
  d.textAs .text

/-- Reads a natural number below `2 ^ bits`. -/
def natural (bits : Nat) : Reader σ m Nat := fun path tree => do
  let content ← d.content tree
  match content with
  | .scalar value => match d.integer? value with
      | some n =>
          if 0 ≤ n ∧ n < Nat.pow 2 bits then pure n.toNat
          else throw (.contents path (.wrongValue (.integer n) (.natural bits)))
      | none => d.wrongType path content (.natural bits)
  | _ => d.wrongType path content (.natural bits)

def word32 : Reader σ m UInt32 := fun path tree => do
  return (← d.natural 32 path tree).toUInt32

def word64 : Reader σ m UInt64 := fun path tree => do
  return (← d.natural 64 path tree).toUInt64

/-- Reads a time stamp. -/
def timeStamp : Reader σ m Time.Instant := fun path tree => do
  let text ← d.textAs .timeStamp path tree
  match Time.Instant.read text.toList with
  | .ok instant => pure instant
  | .error fault => throw (.contents path (.badTime fault))

/-- Reads a value that may be absent; `path` is that of a field. -/
def optional {α : Type} (read : Reader σ m α) : Reader σ m (Option α) := fun path tree => do
  let tree ← d.resolve tree
  match tree with
  | .scalar value =>
      if ← ofExcept (d.isAbsent path.dropLast value) then pure none
      else some <$> read path tree
  | _ => some <$> read path tree

/-- Reads one of the named variants. -/
def variantOf {α : Type} (known : List (String × α)) : Reader σ m α := fun path tree => do
  let found ← d.variant path (← d.resolve tree)
  match known.lookup found.name with
  | some value => do found.finish; pure value
  | none => throw (.contents found.path (.unknownVariant found.name (known.map (·.1))))

/-! ## Lists and tables -/

/-- Reads the items of a list, the first of which has the number `index`. -/
def itemsFrom {α : Type} (read : Reader σ m α) (path : Path) (index : Nat) :
    List (Tree σ) → m (List α)
  | [] => pure []
  | item :: rest => do
      let value ← read (path ++ [.item index]) item
      let values ← itemsFrom read path (index + 1) rest
      pure (value :: values)

def list {α : Type} (read : Reader σ m α) : Reader σ m (List α) := fun path tree => do
  let content ← d.content tree
  match content with
  | .list items closed => do
      let values ← itemsFrom read path 0 items
      d.complete closed
      pure values
  | .scalar value => if d.isEmpty value then pure [] else d.wrongType path content .list
  | .table _ _ => d.wrongType path content .list

/-- Reads a key of the table at `path`, called `wanted` where no text stands. -/
def key (wanted : Wanted) (path : Path) (tree : Tree σ) : m String := do
  let content ← d.content tree
  match content with
  | .scalar value => match d.text? value with
      | some text => pure text
      | none => do throw (d.badKey path (← d.describe path content) wanted)
  | _ => do throw (d.badKey path (← d.describe path content) wanted)

/-- The step from a table to the value of a key with this text. -/
def stepTo (keyNode : Tree σ) (name : String) : Step :=
  match keyNode with
  | .alias _ => .unnamed
  | _ => .field name

/-- Reads the entries of a table of texts. -/
def textEntries (path : Path) : List (Tree σ × Tree σ) → m (List (String × String))
  | [] => pure []
  | (keyNode, valueNode) :: rest => do
      let name ← d.key .text path keyNode
      let value ← d.text (path ++ [stepTo keyNode name]) valueNode
      let entries ← textEntries path rest
      pure ((name, value) :: entries)

/-- Reads a table of texts as its entries in the order of the document. -/
def textTable : Reader σ m (List (String × String)) := fun path tree => do
  let content ← d.content tree
  match content with
  | .table entries closed => do
      let values ← d.textEntries path entries
      d.complete closed
      pure values
  | .scalar value => if d.isEmpty value then pure [] else d.wrongType path content .table
  | .list _ _ => d.wrongType path content .table

end Dialect

/-! ## Records -/

/-- A field of a record: its name, whether it must be there, and how its value is set. -/
structure Field (σ : Type) (m : Type → Type) (ρ : Type) where
  name : String
  required : Bool
  read : Reader σ m (ρ → ρ)

/-- The fields of a record in order, over the record that has no field set. -/
structure Shape (σ : Type) (m : Type → Type) (ρ : Type) where
  name : String
  blank : ρ
  fields : List (Field σ m ρ)

/-- A field that is set to what `read` reads. -/
def Field.of {ρ α : Type} (name : String) (required : Bool) (read : Reader σ m α)
    (set : α → ρ → ρ) : Field σ m ρ where
  name := name
  required := required
  read := fun path tree => do return set (← read path tree)

namespace Dialect

variable {ρ : Type} (d : Dialect σ m)

/-- Reads the entries of a record into `draft`; `seen` are the fields that were set before. -/
def recordEntries (shape : Shape σ m ρ) (path : Path) (draft : ρ) (seen : List String) :
    List (Tree σ × Tree σ) → m (ρ × List String)
  | [] => pure (draft, seen)
  | (keyNode, valueNode) :: rest => do
      let name ← d.key .fieldName path keyNode
      match shape.fields.find? (·.name == name) with
      | none => recordEntries shape path draft seen rest
      | some field =>
          if name ∈ seen then throw (.contents path (.duplicateField name))
          else do
            let set ← field.read (path ++ [stepTo keyNode name]) valueNode
            recordEntries shape path (set draft) (name :: seen) rest

/-- Reads the fields of a record from a list of their values in order. -/
def recordItems (shape : Shape σ m ρ) (path : Path) (closed : Bool) (draft : ρ) (index : Nat) :
    List (Field σ m ρ) → List (Tree σ) → m ρ
  | [], [] => do d.complete closed; pure draft
  | [], _ :: _ => throw .grammar
  | field :: fields, [] => do
      d.complete closed
      if field.required then
        throw (.contents path (.tooShort index shape.name shape.fields.length))
      else recordItems shape path closed draft (index + 1) fields []
  | field :: fields, item :: items => do
      let set ← field.read (path ++ [.item index]) item
      recordItems shape path closed (set draft) (index + 1) fields items

/-- Reads a record from its entries. -/
def recordTable (shape : Shape σ m ρ) (path : Path) (entries : List (Tree σ × Tree σ))
    (closed : Bool) : m ρ := do
  let (draft, seen) ← d.recordEntries shape path shape.blank [] entries
  d.complete closed
  match shape.fields.find? fun field => field.required && !seen.contains field.name with
  | some field => throw (.contents path (.missingField field.name))
  | none => pure draft

/-- Reads a record. -/
def record (shape : Shape σ m ρ) : Reader σ m ρ := fun path tree => do
  let content ← d.content tree
  match content with
  | .table entries closed => d.recordTable shape path entries closed
  | .list items closed =>
      if d.positional then d.recordItems shape path closed shape.blank 0 shape.fields items
      else d.wrongType path content (.record shape.name)
  | .scalar value =>
      if d.isEmpty value then d.recordTable shape path [] true
      else d.wrongType path content (.record shape.name)

end Dialect

end StorageSurvey.Document
