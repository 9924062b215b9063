/-!
# Labels

A label is a key with a value.  The labels of a node are kept in the order of their keys, which is
the order of code points, and a key has one value.
-/

namespace StorageSurvey.Inventory

/-- Labels in the order of their keys. -/
structure Labels where
  entries : List (String × String)
  sorted : entries.Pairwise fun first second => first.1 < second.1
  deriving DecidableEq

namespace Labels

/-- The entries with `key` set to `value`. -/
def insertEntry (key value : String) : List (String × String) → List (String × String)
  | [] => [(key, value)]
  | entry :: rest =>
      if key < entry.1 then (key, value) :: entry :: rest
      else if key = entry.1 then (key, value) :: rest
      else entry :: insertEntry key value rest

theorem mem_insertEntry {key value : String} {entries : List (String × String)}
    {entry : String × String} (h : entry ∈ insertEntry key value entries) :
    entry = (key, value) ∨ entry ∈ entries := by
  induction entries with
  | nil => simpa [insertEntry] using h
  | cons first rest ih => grind [insertEntry]

theorem pairwise_insertEntry (key value : String) {entries : List (String × String)}
    (h : entries.Pairwise fun first second => first.1 < second.1) :
    (insertEntry key value entries).Pairwise fun first second => first.1 < second.1 := by
  induction entries with
  | nil => simp [insertEntry]
  | cons first rest ih =>
      obtain ⟨hfirst, hrest⟩ := List.pairwise_cons.mp h
      unfold insertEntry
      split
      · rename_i hlt
        refine List.pairwise_cons.mpr ⟨fun entry hmem => ?_, h⟩
        rcases List.mem_cons.mp hmem with rfl | hmem
        · exact hlt
        · exact String.lt_trans hlt (hfirst entry hmem)
      · split
        · rename_i heq
          exact List.pairwise_cons.mpr ⟨fun entry hmem => heq ▸ hfirst entry hmem, hrest⟩
        · rename_i hlt hne
          refine List.pairwise_cons.mpr ⟨fun entry hmem => ?_, ih hrest⟩
          rcases mem_insertEntry hmem with rfl | hmem
          · grind
          · exact hfirst entry hmem

def empty : Labels :=
  ⟨[], .nil⟩

/-- The labels with `key` set to `value`. -/
def insert (labels : Labels) (key value : String) : Labels :=
  ⟨insertEntry key value labels.entries, pairwise_insertEntry key value labels.sorted⟩

/-- The labels with these entries; of several values for a key the last one holds. -/
def ofList (entries : List (String × String)) : Labels :=
  entries.foldl (fun labels entry => labels.insert entry.1 entry.2) empty

end Labels

end StorageSurvey.Inventory
