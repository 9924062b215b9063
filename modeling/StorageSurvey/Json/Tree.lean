import StorageSurvey.Document.Tree
import StorageSurvey.Json.Token

/-!
# Trees of JSON texts

The tokens of a text are taken one after the other by a push-down machine whose stack holds the
lists and tables under way.  A token that cannot stand where it does stops the machine, and so
does the end of the text; what was built until then is the tree.
-/

namespace StorageSurvey.Json

open StorageSurvey.Document

abbrev Tree := Document.Tree Scalar

/-- A list or table under way, its items or entries in reverse. -/
inductive Frame
  | list (items : List Tree)
  /-- The key is the one whose value has not been read. -/
  | table (entries : List (Tree × Tree)) (key : Option Tree)

/-- What may come next. -/
inductive Expecting
  | value
  | firstItem
  | firstKey
  | key
  | colon
  | separator
  deriving DecidableEq

/-- How far the machine is. -/
inductive Progress
  | reading (frames : List Frame) (expecting : Expecting)
  | complete (root : Tree)
  /-- The text went wrong; `root` is what had been read. -/
  | faulty (root : Tree)

namespace Progress

/-- Nothing has been read. -/
def start : Progress :=
  .reading [] .value

/-- Gives a node that is read to the list or table that it belongs to. -/
def deliver (node : Tree) : List Frame → Progress
  | [] => .complete node
  | .list items :: frames => .reading (.list (node :: items) :: frames) .separator
  | .table entries (some key) :: frames =>
      .reading (.table ((key, node) :: entries) none :: frames) .separator
  | .table entries none :: frames => .reading (.table entries (some node) :: frames) .colon

/-- The tree of what has been read, with `pending` the node that was under way last. -/
def abandon (pending : Option Tree) : List Frame → Tree
  | [] => pending.getD .broken
  | .list items :: frames =>
      abandon (some (.list (items.reverse ++ pending.toList) false)) frames
  | .table entries none :: frames =>
      abandon (some (.table entries.reverse false)) frames
  | .table entries (some key) :: frames =>
      abandon (some (.table (entries.reverse ++ [(key, pending.getD .broken)]) false)) frames

/-- Closes the innermost list. -/
def closeList : List Frame → Progress
  | .list items :: frames => deliver (.list items.reverse true) frames
  | frames => .faulty (abandon none frames)

/-- Closes the innermost table. -/
def closeTable : List Frame → Progress
  | .table entries none :: frames => deliver (.table entries.reverse true) frames
  | frames => .faulty (abandon none frames)

/-- Takes a token where a value may stand. -/
def value (frames : List Frame) : Token → Progress
  | .scalar scalar => deliver (.scalar scalar) frames
  | .openList => .reading (.list [] :: frames) .firstItem
  | .openTable => .reading (.table [] none :: frames) .firstKey
  | _ => .faulty (abandon none frames)

/-- Takes a token where a key must stand.  Only a text is a key; the text of the document goes
wrong with anything else, but what it begins is kept in the place of the key. -/
def key (frames : List Frame) (token : Token) : Progress :=
  let wrongKey (node : Tree) : Progress := match deliver node frames with
    | .reading frames _ => .faulty (abandon none frames)
    | progress => progress
  match token with
  | .scalar (.text text) => deliver (.scalar (.text text)) frames
  | .scalar scalar => wrongKey (.scalar scalar)
  | .openList => wrongKey (.list [] false)
  | .openTable => wrongKey (.table [] false)
  | _ => .faulty (abandon none frames)

/-- Takes the next token. -/
def feed (progress : Progress) (token : Token) : Progress :=
  match progress with
  | .faulty root => .faulty root
  | .complete root => .faulty root
  | .reading frames .value => value frames token
  | .reading frames .firstItem => match token with
      | .closeList => closeList frames
      | _ => value frames token
  | .reading frames .firstKey => match token with
      | .closeTable => closeTable frames
      | _ => key frames token
  | .reading frames .key => key frames token
  | .reading frames .colon => match token with
      | .colon => .reading frames .value
      | _ => .faulty (abandon none frames)
  | .reading frames .separator => match token, frames with
      | .comma, .list _ :: _ => .reading frames .value
      | .comma, .table _ _ :: _ => .reading frames .key
      | .closeList, _ => closeList frames
      | .closeTable, _ => closeTable frames
      | _, _ => .faulty (abandon none frames)

end Progress

/-- A text as a tree, and whether it is one value and nothing else. -/
structure Document where
  root : Tree
  wellFormed : Bool

/-- The document in a text. -/
def Document.ofText (text : String) : Document :=
  match (tokens text.toList).foldl Progress.feed .start with
  | .complete root => ⟨root, true⟩
  | .faulty root => ⟨root, false⟩
  | .reading frames _ => ⟨Progress.abandon none frames, false⟩

end StorageSurvey.Json
