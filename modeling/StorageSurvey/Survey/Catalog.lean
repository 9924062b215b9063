import StorageSurvey.Survey.Index

/-!
# Catalogs

A catalog holds records with distinct identifiers.  A record that is put in takes the place of the
one with its identifier, or goes to the end; so `Catalog.ofList` keeps the last record for each
identifier, in the order in which the identifiers were first seen.

By the texts of another field, records are found through their positions in the catalog.
-/

namespace StorageSurvey.Survey

variable {α : Type} {key : α → String}

/-- Records with distinct keys. -/
@[ext]
structure Catalog (key : α → String) where
  records : List α
  distinct : (records.map key).Nodup

namespace Catalog

/-- The records with `record` in the place of the one with its key, or at the end. -/
def putRecord (key : α → String) (record : α) : List α → List α
  | [] => [record]
  | first :: rest =>
      if key first = key record then record :: rest else first :: putRecord key record rest

theorem map_key_putRecord (record : α) (records : List α) :
    (putRecord key record records).map key =
      if key record ∈ records.map key then records.map key
      else records.map key ++ [key record] := by
  induction records with
  | nil => simp [putRecord]
  | cons first rest ih => grind [putRecord]

theorem nodup_putRecord (record : α) {records : List α} (h : (records.map key).Nodup) :
    ((putRecord key record records).map key).Nodup := by
  rw [map_key_putRecord]
  split
  · exact h
  · rename_i hfresh
    refine List.nodup_append.mpr ⟨h, by simp, ?_⟩
    intro old hold new hnew heq
    exact hfresh (List.mem_singleton.mp hnew ▸ heq ▸ hold)

def empty : Catalog key :=
  ⟨[], .nil⟩

def put (catalog : Catalog key) (record : α) : Catalog key :=
  ⟨putRecord key record catalog.records, nodup_putRecord record catalog.distinct⟩

/-- The last record for each key, in the order in which the keys are first seen. -/
def ofList (records : List α) : Catalog key :=
  records.foldl put empty

/-- The record with a key. -/
def find? (catalog : Catalog key) (wanted : String) : Option α :=
  catalog.records.find? fun record => key record == wanted

/-- The positions of the records, each under the text that its record has in a field. -/
def positions (catalog : Catalog key) (field : α → String) : Index (Fin catalog.records.length) :=
  .ofList (fun position => field (catalog.records.get position))
    (List.finRange catalog.records.length)

/-- The record at the position that an index has under a text. -/
def findIn? (catalog : Catalog key) (index : Index (Fin catalog.records.length))
    (wanted : String) : Option α :=
  (index.find? wanted).map catalog.records.get

end Catalog

end StorageSurvey.Survey
