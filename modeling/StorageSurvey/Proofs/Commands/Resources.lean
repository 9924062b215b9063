import StorageSurvey.Proofs.Commands.Outcomes
import StorageSurvey.Proofs.Report.NoResources

/-!
# Commands that take identifiers

Each of these commands shows resources of one kind: nodes, volumes or claims.  The kind decides what
an identifier can name; the command decides what keeps a resource from being shown, and how those
that are wanted are shown.  So all of them have their outcome from one definition,
`Display.outcome`, and what identifiers do to it is said once.
-/

namespace StorageSurvey.Commands

open StorageSurvey.Document StorageSurvey.Inventory StorageSurvey.Report StorageSurvey.Survey

/-- The kinds of what identifiers can name. -/
inductive Resource
  | node
  | volume
  | claim
  deriving DecidableEq, Repr

namespace Resource

/-- A resource of a kind: a record, or a claim with its volume and its pods. -/
abbrev Item : Resource → Type
  | node => Node
  | volume => Volume
  | claim => CorrelatedClaim

variable (snapshot : Snapshot)

/-- The resources of a kind in a snapshot. -/
def all : (resource : Resource) → List resource.Item
  | node => survivors Node.id snapshot.nodes
  | volume => survivors Volume.id snapshot.volumes
  | claim => joinedClaims snapshot

/-- Whether an identifier names a resource. -/
def names : (resource : Resource) → resource.Item → String → Bool
  | node => namesNode
  | volume => namesVolume
  | claim => namesClaim snapshot.nodes

end Resource

/-- How resources of a kind are shown. -/
structure Display (resource : Resource) where
  /-- What keeps a resource from being shown. -/
  defect? : resource.Item → Option Failure
  write : resource.Item → Datum
  wellFormed : ∀ item, (write item).WellFormed
  text : List resource.Item → Bool → String
  text_eq_noResources_iff : ∀ items wide, text items wide = noResources ↔ items = []

namespace Display

variable {resource : Resource}

/-- The outcome of showing resources: the first defect among them, or all of them in a format. -/
def present (display : Display resource) (format : OutputFormat) (items : List resource.Item)
    (unmatched : Option Failure) : Except Failure Output :=
  unlessDefect (items.findSome? display.defect?) {
    text := render format (.list (items.map display.write)) (display.text items)
    unmatched }

/-- The outcome of showing the wanted ones among the resources of a snapshot. -/
def outcome (display : Display resource) (snapshot : Snapshot) (format : OutputFormat)
    (identifiers : List String) : Except Failure Output :=
  let wanted := (resource.all snapshot).filter
    (isWanted (resource.names snapshot) identifiers)
  display.present format wanted (missing? (resource.names snapshot) identifiers wanted)

/-! ## What identifiers do -/

section

variable (display : Display resource) (snapshot : Snapshot) (format : OutputFormat)

end

section

variable {display : Display resource} {snapshot : Snapshot} {format : OutputFormat}
  {output : Output}

end

/-! ## The displays of the commands -/

variable (snapshot : Snapshot)

end Display

end StorageSurvey.Commands
