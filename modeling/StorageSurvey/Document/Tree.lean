/-!
# Document trees

A document in a data notation is a tree of scalars, lists and tables.  The same type serves every
notation: `σ` is what the notation knows of a scalar.

A text that breaks off or goes wrong still has a tree.  It holds all that was read before the
fault: the lists and tables that were open are not `closed`, and a key whose value never came has
the value `broken`.  Readers go through a tree in the order of the text, so the first thing wrong
with a document decides its fault, whether that is its grammar or its contents.
-/

namespace StorageSurvey.Document

/-- A document, or the part of it before a fault. -/
inductive Tree (σ : Type) where
  | scalar (value : σ)
  | list (items : List (Tree σ)) (closed : Bool)
  | table (entries : List (Tree σ × Tree σ)) (closed : Bool)
  /-- A list or table that carries a tag. -/
  | tagged (tag : String) (content : Tree σ)
  /-- A reference to the node with this number among the anchored nodes. -/
  | alias (target : Nat)
  | broken

namespace Tree

variable {σ : Type}

/-- A tree without the tags around it. -/
def untagged : Tree σ → Tree σ
  | .tagged _ content => content.untagged
  | tree => tree

end Tree

namespace Tree

variable {σ : Type}

mutual

/-- The number of events in a tree: one for a scalar or a reference, and one each for the start and
the end of a list or table. -/
def eventCount : Tree σ → Nat
  | .scalar _ | .alias _ => 1
  | .list items closed => 1 + itemEvents items + closed.toNat
  | .table entries closed => 1 + entryEvents entries + closed.toNat
  | .tagged _ content => content.eventCount
  | .broken => 0

def itemEvents : List (Tree σ) → Nat
  | [] => 0
  | item :: items => item.eventCount + itemEvents items

def entryEvents : List (Tree σ × Tree σ) → Nat
  | [] => 0
  | (key, value) :: entries => key.eventCount + value.eventCount + entryEvents entries

end

end Tree

/-- What a node holds once references are followed and tags are taken off. -/
inductive Content (σ : Type) where
  | scalar (value : σ)
  | list (items : List (Tree σ)) (closed : Bool)
  | table (entries : List (Tree σ × Tree σ)) (closed : Bool)

/-- The content of a tree that is no reference; none where the text broke off. -/
def Tree.content? {σ : Type} (tree : Tree σ) : Option (Content σ) :=
  match tree.untagged with
  | .scalar value => some (.scalar value)
  | .list items closed => some (.list items closed)
  | .table entries closed => some (.table entries closed)
  | .tagged _ _ | .alias _ | .broken => none

end StorageSurvey.Document
