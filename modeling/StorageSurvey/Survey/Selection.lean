import StorageSurvey.Failure
import StorageSurvey.Inventory.Node
import StorageSurvey.Inventory.Volume

/-!
# Selection by identifiers

Operators name resources by whatever identifier is at hand.  `select` keeps the items that match
one of the identifiers, and reports the identifiers that match nothing; without identifiers it
keeps everything.  What an item can be named by are its lookup keys, which match as a whole or not
at all, and never when they are empty.
-/

namespace StorageSurvey.Survey

open StorageSurvey.Inventory

/-! ## Lookup keys -/

/-- What a lookup key is the text of. -/
inductive KeyField
  | nodeId
  | hostname
  | managementIp
  | schedulerName
  | claimName
  | volumeName
  | volumeId
  /-- The name of the host on which a volume is attached. -/
  | attachedHost
  deriving DecidableEq, Repr

/-- A text by which an item can be named. -/
structure LookupKey where
  field : KeyField
  value : String
  deriving DecidableEq, Repr

/-- Whether an identifier is the text of a key that is not empty. -/
def LookupKey.matches (key : LookupKey) (identifier : String) : Bool :=
  key.value ≠ "" && key.value == identifier

/-- Whether an identifier matches one of the keys. -/
def anyMatches (keys : List LookupKey) (identifier : String) : Bool :=
  keys.any (·.matches identifier)

/-- A node is named by its identifier, its host name, its address and its scheduler name. -/
def nodeKeys (node : Node) : List LookupKey := [
  ⟨.nodeId, node.id⟩,
  ⟨.hostname, node.hostname⟩,
  ⟨.managementIp, node.managementIp⟩,
  ⟨.schedulerName, node.schedulerName⟩]

/-- A volume is named by its identifier and its name. -/
def volumeKeys (volume : Volume) : List LookupKey :=
  [⟨.volumeId, volume.id⟩, ⟨.volumeName, volume.name⟩]

/-! ## Selections -/

/-- The items that were found, and the identifiers that no item matches. -/
structure Selection (α : Type) where
  items : List α
  unmatched : List String

namespace Selection

variable {α β : Type}

def isComplete (selection : Selection α) : Bool :=
  selection.unmatched.isEmpty

/-- The failure for the first identifier that no item matches. -/
def failure? (selection : Selection α) : Option Failure :=
  selection.unmatched.head?.map .noMatch

/-- The items, if every identifier is matched. -/
def result (selection : Selection α) : Except Failure (List α) :=
  match selection.failure? with
  | some failure => .error failure
  | none => .ok selection.items

def map (f : α → β) (selection : Selection α) : Selection β :=
  ⟨selection.items.map f, selection.unmatched⟩

end Selection

/-- Passes over the items once, marking the identifiers that an item matches. -/
def sift {α : Type} (named : α → String → Bool) :
    List (String × Bool) → List α → Selection α
  | identifiers, [] =>
      ⟨[], (identifiers.filter fun identifier => !identifier.2).map (·.1)⟩
  | identifiers, item :: items =>
      let marked := identifiers.map fun (identifier, found) =>
        (identifier, found || named item identifier)
      let rest := sift named marked items
      if identifiers.any fun identifier => named item identifier.1 then
        { rest with items := item :: rest.items }
      else rest

/-- The items that match one of the identifiers; all items if there are no identifiers. -/
def select {α : Type} (named : α → String → Bool) (identifiers : List String) (items : List α) :
    Selection α :=
  if identifiers.isEmpty then ⟨items, []⟩
  else sift named (identifiers.map (·, false)) items

/-- The items with a key that is one of the identifiers. -/
def selectByKeys {α : Type} (keys : α → List LookupKey) (identifiers : List String)
    (items : List α) : Selection α :=
  select (fun item => anyMatches (keys item)) identifiers items

end StorageSurvey.Survey
