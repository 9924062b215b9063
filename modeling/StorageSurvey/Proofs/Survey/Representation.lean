import StorageSurvey.Proofs.Survey.LastRecords
import StorageSurvey.Survey.Nodes
import StorageSurvey.Survey.Volumes

/-!
# What is kept of nodes and volumes, and what is found among them

A list of nodes or volumes may mention an identifier more than once.  What is kept of it has each
identifier once, in the place of its first mention, with the last record that has it.  Everything
else is found among what is kept: an index over a field has exactly the texts that are not empty
and that some record which is kept has in that field, and finds the last such record.  So a text
that only overwritten records have is found nowhere.

`Deduplicates` and `IndexesLast` say this of a list and a way to find records, without a word on
how the records are held.
-/

namespace StorageSurvey.Survey

open StorageSurvey.Inventory

variable {α : Type} {key field : α → String}

/-! ## The last record with a text, by its place -/

/-- Whether a record stands in a list with a text in a field, and no later one has that text. -/
def IsLastWith (field : α → String) (records : List α) (wanted : String) (record : α) : Prop :=
  ∃ before after, records = before ++ record :: after ∧ field record = wanted ∧
    ∀ later ∈ after, field later ≠ wanted

theorem lastWith?_eq_some_iff_isLastWith {records : List α} {wanted : String} {record : α} :
    lastWith? field records wanted = some record ↔ IsLastWith field records wanted record := by
  rw [lastWith?, List.getLast?_filter, List.find?_eq_some_iff_append]
  constructor
  · rintro ⟨hfield, after, before, hsplit, hafter⟩
    refine ⟨before.reverse, after.reverse, ?_, beq_iff_eq.mp hfield, ?_⟩
    · simpa using congrArg List.reverse hsplit
    · intro later hlater
      simpa using hafter later (List.mem_reverse.mp hlater)
  · rintro ⟨before, after, rfl, hfield, hafter⟩
    refine ⟨beq_iff_eq.mpr hfield, after.reverse, before.reverse, by simp, ?_⟩
    intro later hlater
    simpa using hafter later (List.mem_reverse.mp hlater)

/-! ## The order of first mentions -/

/-- Texts without their repetitions stand in the order in which they are first mentioned. -/
theorem pairwise_idxOf_eraseDups (texts : List String) :
    texts.eraseDups.Pairwise fun first second => texts.idxOf first < texts.idxOf second := by
  induction texts using List.reverseRecOn with
  | nil => exact .nil
  | append_singleton texts text ih =>
      -- a text that is mentioned already keeps the place of its first mention
      have hold : ∀ old ∈ texts.eraseDups, (texts ++ [text]).idxOf old = texts.idxOf old :=
        fun old hmem => List.idxOf_append_of_mem (List.mem_eraseDups.mp hmem)
      have hkept : texts.eraseDups.Pairwise fun first second =>
          (texts ++ [text]).idxOf first < (texts ++ [text]).idxOf second := by
        refine ih.imp_of_mem fun hfirst hsecond hlt => ?_
        rwa [hold _ hfirst, hold _ hsecond]
      rw [eraseDups_concat]
      split
      · exact hkept
      · rename_i hfresh
        refine List.pairwise_append.mpr ⟨hkept, List.pairwise_singleton _ _, ?_⟩
        intro old hmem new hnew
        rw [List.mem_singleton.mp hnew, hold old hmem, List.idxOf_append_of_notMem hfresh]
        exact Nat.lt_add_right _ (List.idxOf_lt_length_of_mem (List.mem_eraseDups.mp hmem))

/-! ## What is kept -/

/-- Whether one list keeps of another the last record for each key, in the order in which the keys
are first mentioned, and `find?` finds the records that are kept by their keys. -/
structure Deduplicates (key : α → String) (records kept : List α) (find? : String → Option α) :
    Prop where
  distinct : (kept.map key).Nodup
  mem_keys_iff : ∀ wanted, wanted ∈ kept.map key ↔ wanted ∈ records.map key
  ordered : kept.Pairwise fun first second =>
    (records.map key).idxOf (key first) < (records.map key).idxOf (key second)
  isLast : ∀ record ∈ kept, IsLastWith key records (key record) record
  find?_eq_some_iff : ∀ wanted record,
    find? wanted = some record ↔ IsLastWith key records wanted record
  find?_eq_none_iff : ∀ wanted, find? wanted = none ↔ wanted ∉ records.map key

theorem Catalog.deduplicates (records : List α) :
    Deduplicates key records (ofList records : Catalog key).records
      (ofList records : Catalog key).find? where
  distinct := (ofList records : Catalog key).distinct
  mem_keys_iff wanted := by rw [map_key_ofList, List.mem_eraseDups]
  ordered := by
    have hordered := pairwise_idxOf_eraseDups (records.map key)
    rwa [← map_key_ofList, List.pairwise_map] at hordered
  isLast record hmem := by
    rw [records_ofList] at hmem
    exact lastWith?_eq_some_iff_isLastWith.mp (mem_survivors_iff.mp hmem)
  find?_eq_some_iff wanted record := by rw [find?_ofList, lastWith?_eq_some_iff_isLastWith]
  find?_eq_none_iff wanted := by rw [find?_ofList, lastWith?_eq_none_iff]

/-! ## What is found among it -/

/-- Whether `find?` finds, by the texts of a field that are not empty, the last record that has the
text among those that are kept of a list; what only overwritten records have is not found. -/
structure IndexesLast (key field : α → String) (records kept : List α)
    (find? : String → Option α) : Prop where
  find?_eq_some_iff : ∀ wanted record,
    find? wanted = some record ↔ wanted ≠ "" ∧ IsLastWith field kept wanted record
  find?_eq_none_iff : ∀ wanted, find? wanted = none ↔ wanted = "" ∨ wanted ∉ kept.map field
  /-- What is found is not overwritten. -/
  isLast : ∀ wanted record,
    find? wanted = some record → IsLastWith key records (key record) record
  /-- A text of an overwritten record is found only if a record that is kept has it too. -/
  stale : ∀ old ∈ records, (∀ record ∈ kept, field record ≠ field old) → find? (field old) = none

theorem Catalog.indexesLast (records : List α) :
    let catalog : Catalog key := ofList records
    IndexesLast key field records catalog.records
      (catalog.findIn? (catalog.positions field)) where
  find?_eq_some_iff wanted record := by
    rw [findIn?_positions, ← lastWith?_eq_some_iff_isLastWith]
    by_cases hempty : wanted = "" <;> simp [hempty]
  find?_eq_none_iff wanted := by
    rw [findIn?_positions, ← lastWith?_eq_none_iff]
    by_cases hempty : wanted = "" <;> simp [hempty]
  isLast wanted record hfound := by
    rw [findIn?_positions] at hfound
    split at hfound
    · cases hfound
    · exact (deduplicates records).isLast record (mem_of_lastWith? hfound).1
  stale old _ hnone := by
    rw [findIn?_positions]
    split
    · rfl
    · refine lastWith?_eq_none_iff.mpr fun hmem => ?_
      obtain ⟨record, hrecord, hsame⟩ := List.mem_map.mp hmem
      exact hnone record hrecord hsame

/-! ## Nodes and volumes -/

/-- Nodes and volumes are kept without repeated identifiers, the last record for each, and are found
by identifier, and by the texts of their other fields among what is kept. -/
theorem nodes_volumes_represented (nodes : List Node) (volumes : List Volume) :
    let nodeIndex := Nodes.ofList nodes
    let volumeIndex := Volumes.ofList volumes
    Deduplicates Node.id nodes nodeIndex.all nodeIndex.byId? ∧
      IndexesLast Node.id Node.hostname nodes nodeIndex.all nodeIndex.byHostname? ∧
      IndexesLast Node.id Node.managementIp nodes nodeIndex.all nodeIndex.byManagementIp? ∧
      IndexesLast Node.id Node.schedulerName nodes nodeIndex.all nodeIndex.bySchedulerName? ∧
      Deduplicates Volume.id volumes volumeIndex.all volumeIndex.byId? ∧
      IndexesLast Volume.id Volume.name volumes volumeIndex.all volumeIndex.byName? :=
  ⟨Catalog.deduplicates nodes, Catalog.indexesLast nodes, Catalog.indexesLast nodes,
    Catalog.indexesLast nodes, Catalog.deduplicates volumes, Catalog.indexesLast volumes⟩

end StorageSurvey.Survey
