import StorageSurvey.Document.Tree
import StorageSurvey.Yaml.Layout

/-!
# Trees of YAML texts

The tokens of a text are taken one after the other by a push-down machine whose stack holds the
lists and tables under way.  Where a value may be left out, the next token tells whether it was.
Only the first document of a text is read; what follows it is only noticed.

A reference stands for the last node before it that has its name.  Such nodes are numbered in the
order in which they begin.
-/

namespace StorageSurvey.Yaml

open StorageSurvey.Document

/-- A scalar with its style and its tag, written out in full. -/
structure Scalar where
  text : String
  style : Style
  tag : Option String
  deriving DecidableEq, Repr

namespace Scalar

/-- What stands where nothing is written. -/
def omitted : Scalar :=
  ⟨"", .plain, none⟩

end Scalar

abbrev Tree := Document.Tree Scalar

/-! ## The machine -/

/-- What is written before a node. -/
structure Properties where
  anchor : Option String
  tag : Option (String × String)
  deriving DecidableEq, Repr

namespace Properties

def none : Properties :=
  ⟨.none, .none⟩

def isEmpty (properties : Properties) : Bool :=
  properties.anchor.isNone && properties.tag.isNone

end Properties

inductive ListKind
  | block
  /-- The items of a block that is not indented below its key. -/
  | bare
  | flow
  deriving DecidableEq, Repr

inductive TableKind
  | block
  | flow
  /-- A table of one entry, written without brackets of its own in a list. -/
  | pair
  deriving DecidableEq, Repr

/-- What the next node in a table is. -/
inductive Slot
  | key
  /-- A key inside brackets that no value follows. -/
  | loneKey
  | value (key : Tree)

inductive Container
  | list (kind : ListKind) (items : List Tree)
  | table (kind : TableKind) (entries : List (Tree × Tree)) (slot : Slot)

/-- A list or table under way, its items or entries in reverse. -/
structure Frame where
  container : Container
  /-- The number of the node if it can be referred to. -/
  anchored : Option Nat
  tag : Option String

/-- The tree of a list or table. -/
def Frame.toTree (frame : Frame) (closed : Bool) : Tree :=
  let content : Tree := match frame.container with
    | .list _ items => .list items.reverse closed
    | .table _ entries _ => .table entries.reverse closed
  match frame.tag with
  | some tag => .tagged tag content
  | none => content

/-- What may come next. -/
inductive Phase
  /-- Directives or the start of a document. -/
  | prologue
  | directives
  /-- A node. -/
  | node
  /-- An item or a key inside brackets, or the closing bracket. -/
  | slot
  /-- The sign before the next item or key, or the end of the list or table. -/
  | separator
  /-- The colon before a value. -/
  | colon
  /-- The end of the document. -/
  | epilogue
  /-- The end of the text. -/
  | over
  deriving DecidableEq, Repr

/-- Why the machine stopped. -/
inductive Ending
  | complete
  /-- Something else follows the document. -/
  | severalDocuments
  | grammar
  | unknownAnchor
  deriving DecidableEq, Repr

structure Machine where
  frames : List Frame
  phase : Phase
  properties : Properties
  /-- What tag handles stand for. -/
  handles : List (String × String)
  hasVersion : Bool
  /-- The names of anchors, the last first, with the numbers of their nodes. -/
  names : List (String × Nat)
  /-- The nodes that can be referred to, by their numbers. -/
  nodes : List (Nat × Tree)
  root : Option Tree
  ending : Option Ending

namespace Machine

def start : Machine where
  frames := []
  phase := .prologue
  properties := .none
  handles := []
  hasVersion := false
  names := []
  nodes := []
  root := none
  ending := none

def stop (machine : Machine) (ending : Ending) : Machine :=
  { machine with ending := some ending }

/-! ## Nodes that are read -/

/-- The nodes that can be referred to, with one more if it has a number. -/
def record (nodes : List (Nat × Tree)) (anchored : Option Nat) (node : Tree) :
    List (Nat × Tree) :=
  match anchored with
  | some number => (number, node) :: nodes
  | none => nodes

/-- Gives a node to the list or table that it belongs to. -/
def deliver (machine : Machine) (node : Tree) : Machine :=
  match machine.frames with
  | [] => { machine with root := some node, phase := .epilogue }
  | ⟨.list kind items, anchored, tag⟩ :: frames =>
      { machine with
        frames := ⟨.list kind (node :: items), anchored, tag⟩ :: frames, phase := .separator }
  | ⟨.table kind entries .key, anchored, tag⟩ :: frames =>
      { machine with
        frames := ⟨.table kind entries (.value node), anchored, tag⟩ :: frames, phase := .colon }
  | ⟨.table kind entries .loneKey, anchored, tag⟩ :: frames =>
      let entries := (node, .scalar .omitted) :: entries
      { machine with
        frames := ⟨.table kind entries .key, anchored, tag⟩ :: frames, phase := .separator }
  | ⟨.table kind entries (.value key), anchored, tag⟩ :: frames =>
      { machine with
        frames := ⟨.table kind ((key, node) :: entries) .key, anchored, tag⟩ :: frames
        phase := .separator }

/-- Stands for a node that was left out. -/
def leaveOut (machine : Machine) : Machine :=
  machine.deliver (.scalar .omitted)

/-- Closes the innermost list or table. -/
def close (machine : Machine) : Machine :=
  match machine.frames with
  | frame :: frames =>
      let node := frame.toTree true
      { machine with frames, nodes := record machine.nodes frame.anchored node }.deliver node
  | [] => machine.stop .grammar

/-- Gives up: what is under way stays as far as it was read. -/
def abandonFrames (pending : Option Tree) (nodes : List (Nat × Tree)) :
    List Frame → Tree × List (Nat × Tree)
  | [] => (pending.getD .broken, nodes)
  | frame :: frames =>
      let container := match frame.container with
        | .list kind items => .list kind (pending.toList ++ items)
        | .table kind entries (.value key) =>
            .table kind ((key, pending.getD .broken) :: entries) .key
        | .table kind entries slot =>
            .table kind ((pending.toList.map fun key => (key, .broken)) ++ entries) slot
      let node := Frame.toTree { frame with container } false
      abandonFrames (some node) (record nodes frame.anchored node) frames

/-! ## Nodes that begin -/

/-- The handles that every document knows. -/
def knownHandles : List (String × String) :=
  [("!", "!"), ("!!", "tag:yaml.org,2002:")]

/-- The tag that a handle and a suffix stand for; without a handle the suffix is all. -/
def resolveTag? (machine : Machine) : Option (String × String) → Option (Option String)
  | none => some none
  | some ("", suffix) => some (some suffix)
  | some (handle, suffix) =>
      ((machine.handles ++ knownHandles).lookup handle).map fun expansion =>
        some (expansion ++ suffix)

/-- The machine after the properties before a node, with the number of the node. -/
def takeProperties (machine : Machine) : Machine × Option Nat :=
  match machine.properties.anchor with
  | some name =>
      let number := machine.names.length
      ({ machine with
        properties := .none, names := (name, number) :: machine.names }, some number)
  | none => ({ machine with properties := .none }, none)

/-- Takes a scalar with the properties before it.  The tag `!` says nothing of a scalar. -/
def scalar (machine : Machine) (tag : Option String) (style : Style) (text : String) : Machine :=
  let (machine, anchored) := machine.takeProperties
  let node : Tree := .scalar ⟨text, style, if tag = some "!" then none else tag⟩
  { machine with nodes := record machine.nodes anchored node }.deliver node

/-- Opens a list or table with the properties before it. -/
def openContainer (machine : Machine) (tag : Option String) (container : Container)
    (phase : Phase) : Machine :=
  let (machine, anchored) := machine.takeProperties
  { machine with frames := ⟨container, anchored, tag⟩ :: machine.frames, phase }

/-- Whether a list without indentation may begin: that is, directly in a block table. -/
def allowsBareList (machine : Machine) : Bool :=
  match machine.frames with
  | ⟨.table .block _ _, _, _⟩ :: _ => true
  | _ => false

/-- Whether lists and tables by indentation may begin: not inside brackets. -/
def allowsBlocks (machine : Machine) : Bool :=
  match machine.frames with
  | ⟨.list .flow _, _, _⟩ :: _ | ⟨.table .flow _ _, _, _⟩ :: _ | ⟨.table .pair _ _, _, _⟩ :: _ =>
      false
  | _ => true

/-! ## Tokens between nodes -/

/-- Takes a token in a block table, before a key. -/
def blockKey (machine : Machine) (token : Token) : Machine :=
  match token with
  | .key => { machine with phase := .node }
  | .blockEnd => machine.close
  | _ => machine.stop .grammar

/-- Takes a token in a list inside brackets, after an item. -/
def flowItem (machine : Machine) (token : Token) : Machine :=
  match token with
  | .comma => { machine with phase := .slot }
  | .flowListEnd => machine.close
  | _ => machine.stop .grammar

/-- Takes a token before an item or a key, or after the last. -/
def separator (machine : Machine) (token : Token) : Machine :=
  match machine.frames with
  | ⟨.list .block _, _, _⟩ :: _ => match token with
      | .item => { machine with phase := .node }
      | .blockEnd => machine.close
      | _ => machine.stop .grammar
  | ⟨.list .bare _, _, _⟩ :: _ => match token with
      | .item => { machine with phase := .node }
      | _ =>
          let machine := machine.close
          match machine.phase, token with
          | .colon, .value => { machine with phase := .node }
          | .colon, _ => machine.leaveOut.blockKey token
          | _, _ => machine.blockKey token
  | ⟨.list .flow _, _, _⟩ :: _ => machine.flowItem token
  | ⟨.table .block _ _, _, _⟩ :: _ => machine.blockKey token
  | ⟨.table .flow _ _, _, _⟩ :: _ => match token with
      | .comma => { machine with phase := .slot }
      | .flowTableEnd => machine.close
      | _ => machine.stop .grammar
  | ⟨.table .pair _ _, _, _⟩ :: _ => machine.close.flowItem token
  | [] => machine.stop .grammar

/-- Takes a token after a key. -/
def colon (machine : Machine) (token : Token) : Machine :=
  match token with
  | .value => { machine with phase := .node }
  | _ => machine.leaveOut.separator token

/-- Takes a token after the root of the document. -/
def epilogue (machine : Machine) (token : Token) : Machine :=
  match token with
  | .streamEnd => machine.stop .complete
  | .documentEnd => { machine with phase := .over }
  | _ => machine.stop .severalDocuments

/-- Takes a token where a node has just been read. -/
def afterNode (machine : Machine) (token : Token) : Machine :=
  match machine.phase with
  | .colon => machine.colon token
  | .epilogue => machine.epilogue token
  | _ => machine.separator token

/-! ## Tokens where a node may begin -/

/-- Whether a token tells that the node before it was left out. -/
def tellsOmission (machine : Machine) (token : Token) : Bool :=
  match machine.frames, token with
  | [], .version _ _ | [], .tagHandle _ _ | [], .documentStart | [], .documentEnd
  | [], .streamEnd => true
  | ⟨.list .block _, _, _⟩ :: _, .item | ⟨.list .block _, _, _⟩ :: _, .blockEnd => true
  | ⟨.list .bare _, _, _⟩ :: _, .item | ⟨.list .bare _, _, _⟩ :: _, .key
  | ⟨.list .bare _, _, _⟩ :: _, .value | ⟨.list .bare _, _, _⟩ :: _, .blockEnd => true
  | ⟨.table .block _ _, _, _⟩ :: _, .key | ⟨.table .block _ _, _, _⟩ :: _, .value
  | ⟨.table .block _ _, _, _⟩ :: _, .blockEnd => true
  | ⟨.table .flow _ .key, _, _⟩ :: _, .value => true
  | ⟨.table .flow _ _, _, _⟩ :: _, .comma | ⟨.table .flow _ _, _, _⟩ :: _, .flowTableEnd => true
  | ⟨.table .pair _ .key, _, _⟩ :: _, .value => true
  | ⟨.table .pair _ _, _, _⟩ :: _, .comma | ⟨.table .pair _ _, _, _⟩ :: _, .flowListEnd => true
  | _, _ => false

/-- Takes the token that begins a node, or stops. -/
def beginNode (machine : Machine) (tag : Option String) (token : Token) : Machine :=
  match token with
  | .scalar style text => machine.scalar tag style text
  | .flowListStart => machine.openContainer tag (.list .flow []) .slot
  | .flowTableStart => machine.openContainer tag (.table .flow [] .key) .slot
  | .blockListStart =>
      if machine.allowsBlocks then machine.openContainer tag (.list .block []) .separator
      else machine.stop .grammar
  | .blockTableStart =>
      if machine.allowsBlocks then machine.openContainer tag (.table .block [] .key) .separator
      else machine.stop .grammar
  | .item =>
      if machine.allowsBareList then machine.openContainer tag (.list .bare []) .node
      else machine.stop .grammar
  | _ => machine.stop .grammar

/-- Whether a token begins a node here. -/
def beginsNode (machine : Machine) : Token → Bool
  | .scalar _ _ | .flowListStart | .flowTableStart => true
  | .blockListStart | .blockTableStart => machine.allowsBlocks
  | .item => machine.allowsBareList
  | _ => false

/-- Takes a token of a node: what is written before it, or its beginning.  Where only the former is
written, the node is an empty scalar. -/
def node (machine : Machine) (token : Token) : Machine :=
  match token, machine.properties with
  | .anchor name, ⟨none, tag⟩ => { machine with properties := ⟨some name, tag⟩ }
  | .tag handle suffix, ⟨anchor, none⟩ =>
      { machine with properties := ⟨anchor, some (handle, suffix)⟩ }
  | .alias name, ⟨none, none⟩ => match machine.names.lookup name with
      | some number => machine.deliver (.alias number)
      | none => machine.stop .unknownAnchor
  | token, properties => match machine.resolveTag? properties.tag with
      | none => machine.stop .grammar
      | some tag =>
          if machine.beginsNode token || properties.isEmpty then machine.beginNode tag token
          else (machine.scalar tag .plain "").afterNode token

/-- Takes a token where a node should be.  In a table of one entry inside a list, the token that
tells of an omitted key is passed over. -/
def nodeOrOmission (machine : Machine) (token : Token) : Machine :=
  if machine.properties.isEmpty && machine.tellsOmission token then
    match machine.frames with
    | ⟨.table .pair _ .key, _, _⟩ :: _ => machine.leaveOut
    | _ => machine.leaveOut.afterNode token
  else machine.node token

/-- Takes a token at an item or a key inside brackets. -/
def slot (machine : Machine) (token : Token) : Machine :=
  match machine.frames, token with
  | ⟨.list .flow _, _, _⟩ :: _, .flowListEnd => machine.close
  | ⟨.list .flow _, _, _⟩ :: _, .key =>
      { machine with
        frames := ⟨.table .pair [] .key, none, none⟩ :: machine.frames
        phase := .node }
  | ⟨.table .flow _ _, _, _⟩ :: _, .flowTableEnd => machine.close
  | ⟨.table .flow _ _, _, _⟩ :: _, .key => { machine with phase := .node }
  | ⟨.table .flow entries _, anchored, tag⟩ :: frames, token =>
      { machine with
        frames := ⟨.table .flow entries .loneKey, anchored, tag⟩ :: frames
        phase := .node }.node token
  | _, token => { machine with phase := .node }.node token

/-! ## The start of the document -/

/-- Takes a directive. -/
def directive (machine : Machine) (token : Token) : Machine :=
  match token with
  | .version major minor =>
      if machine.hasVersion || major != 1 || (minor != 1 && minor != 2) then machine.stop .grammar
      else { machine with hasVersion := true, phase := .directives }
  | .tagHandle handle expansion =>
      if (machine.handles.lookup handle).isSome then machine.stop .grammar
      else { machine with
        handles := (handle, expansion) :: machine.handles, phase := .directives }
  | _ => machine.stop .grammar

/-- Takes a token before the document. -/
def prologue (machine : Machine) (token : Token) : Machine :=
  match token with
  | .version _ _ | .tagHandle _ _ => machine.directive token
  | .documentStart => { machine with phase := .node }
  | .streamEnd => { machine with root := some (.scalar .omitted) }.stop .complete
  | token => { machine with phase := .node }.node token

/-- Takes the next token. -/
def feed (machine : Machine) (token : Token) : Machine :=
  if machine.ending.isSome then machine
  else match machine.phase with
    | .prologue => machine.prologue token
    | .directives => match token with
        | .documentStart => { machine with phase := .node }
        | token => machine.directive token
    | .node => machine.nodeOrOmission token
    | .slot => machine.slot token
    | .separator => machine.separator token
    | .colon => machine.colon token
    | .epilogue => machine.epilogue token
    | .over => match token with
        | .streamEnd => machine.stop .complete
        | .documentEnd => machine
        | _ => machine.stop .severalDocuments

end Machine

/-- The first document of a text. -/
structure Document where
  root : Tree
  nodes : List (Nat × Tree)
  ending : Ending

/-- The document in a text. -/
def Document.ofText (text : String) : Document :=
  let machine := (tokens text.toList).foldl Machine.feed .start
  let ending := machine.ending.getD
    (if machine.phase = .over then .severalDocuments else .grammar)
  match machine.root with
  | some root => ⟨root, machine.nodes, ending⟩
  | none =>
      let (root, nodes) := Machine.abandonFrames none machine.nodes machine.frames
      ⟨root, nodes, ending⟩

end StorageSurvey.Yaml
