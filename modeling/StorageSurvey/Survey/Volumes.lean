import StorageSurvey.Survey.Catalog
import StorageSurvey.Survey.Selection

/-!
# The volumes of a cluster

Volumes are found by identifier, and by name through their positions among the volumes that the
catalog keeps.
-/

namespace StorageSurvey.Survey

open StorageSurvey.Inventory

/-- The volumes of a cluster with the index over them. -/
structure Volumes where
  catalog : Catalog Volume.id
  byName : Index (Fin catalog.records.length)

namespace Volumes

def ofList (volumes : List Volume) : Volumes :=
  let catalog : Catalog Volume.id := .ofList volumes
  ⟨catalog, catalog.positions Volume.name⟩

/-- The volumes in the order in which their identifiers were first seen. -/
def all (volumes : Volumes) : List Volume :=
  volumes.catalog.records

def byId? (volumes : Volumes) (id : String) : Option Volume :=
  volumes.catalog.find? id

def byName? (volumes : Volumes) (name : String) : Option Volume :=
  volumes.catalog.findIn? volumes.byName name

/-- The volume with this identifier, else name. -/
def find? (volumes : Volumes) (identifier : String) : Option Volume :=
  volumes.byId? identifier <|> volumes.byName? identifier

def select (volumes : Volumes) (identifiers : List String) : Selection Volume :=
  selectByKeys volumeKeys identifiers volumes.all

end Volumes

end StorageSurvey.Survey
