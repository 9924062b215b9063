import Mathlib.Data.List.Induction
import Mathlib.Data.List.Nodup
import StorageSurvey.Survey.Catalog

/-!
# What catalogs and indexes keep of a list

A catalog of a list holds the last record for each key, in the order in which the keys are first
seen; an index holds the last record for each text that is not empty.  Both are built from the front
of the list, so each fact is an induction on a list to which one record is added at the end.
-/

namespace StorageSurvey.Survey

variable {α : Type} {key field : α → String}

/-- The last record with a text in a field. -/
def lastWith? (field : α → String) (records : List α) (wanted : String) : Option α :=
  (records.filter fun record => field record == wanted).getLast?

/-- The last record for each key, in the order in which the keys are first seen. -/
def survivors (key : α → String) (records : List α) : List α :=
  (records.map key).eraseDups.filterMap (lastWith? key records)

/-! ## The last record with a text -/

@[simp] theorem lastWith?_nil (field : α → String) (wanted : String) :
    lastWith? field [] wanted = none := rfl

theorem lastWith?_concat (records : List α) (record : α) (wanted : String) :
    lastWith? field (records ++ [record]) wanted =
      if field record = wanted then some record else lastWith? field records wanted := by
  unfold lastWith?
  by_cases h : field record = wanted <;> simp [List.filter_append, h]

/-- The last of the values of a list is the value of the last one that has it. -/
theorem lastWith?_map {β : Type} (value : β → α) (items : List β) (wanted : String) :
    lastWith? field (items.map value) wanted =
      (lastWith? (fun item => field (value item)) items wanted).map value := by
  unfold lastWith?
  rw [List.filter_map, List.getLast?_map]
  rfl

theorem lastWith?_cons (record : α) (records : List α) (wanted : String) :
    lastWith? field (record :: records) wanted =
      (lastWith? field records wanted).or
        (if field record = wanted then some record else none) := by
  unfold lastWith?
  rw [List.filter_cons]
  by_cases h : field record = wanted
  · rw [if_pos (beq_iff_eq.mpr h), if_pos h, List.getLast?_cons]
    cases (records.filter fun record => field record == wanted).getLast? <;> rfl
  · rw [if_neg (by simpa using h), if_neg h, Option.or_none]

theorem lastWith?_eq_none_iff {records : List α} {wanted : String} :
    lastWith? field records wanted = none ↔ wanted ∉ records.map field := by
  simp [lastWith?]

theorem ne_of_lastWith?_eq_none {records : List α} {wanted : String}
    (h : lastWith? field records wanted = none) {record : α} (hmem : record ∈ records) :
    field record ≠ wanted :=
  fun heq => lastWith?_eq_none_iff.mp h (heq ▸ List.mem_map_of_mem hmem)

theorem mem_of_lastWith? {records : List α} {wanted : String} {record : α}
    (h : lastWith? field records wanted = some record) :
    record ∈ records ∧ field record = wanted := by
  have hmem := List.mem_of_getLast? h
  rw [List.mem_filter] at hmem
  exact ⟨hmem.1, beq_iff_eq.mp hmem.2⟩

/-- If the texts are distinct, the last record with one of them is the only one. -/
theorem lastWith?_eq_some_iff {records : List α} (h : (records.map field).Nodup) {wanted : String}
    {record : α} :
    lastWith? field records wanted = some record ↔ record ∈ records ∧ field record = wanted := by
  refine ⟨mem_of_lastWith?, ?_⟩
  rintro ⟨hmem, rfl⟩
  cases hlast : lastWith? field records (field record) with
  | none => exact absurd (List.mem_map_of_mem hmem) (lastWith?_eq_none_iff.mp hlast)
  | some last =>
      obtain ⟨hlastMem, hsame⟩ := mem_of_lastWith? hlast
      exact congrArg some (List.inj_on_of_nodup_map h hlastMem hmem hsame)

/-- The order of records with distinct texts makes no difference to what is found among them. -/
theorem lastWith?_perm {first second : List α} (hperm : first.Perm second)
    (h : (first.map field).Nodup) : lastWith? field first = lastWith? field second := by
  have hsecond : (second.map field).Nodup := (hperm.map field).nodup_iff.mp h
  funext wanted
  ext record
  rw [lastWith?_eq_some_iff h, lastWith?_eq_some_iff hsecond, hperm.mem_iff]

/-! ## Catalogs -/

theorem eraseDups_concat (texts : List String) (text : String) :
    (texts ++ [text]).eraseDups =
      if text ∈ texts then texts.eraseDups else texts.eraseDups ++ [text] := by
  rw [List.eraseDups_append]
  by_cases h : text ∈ texts <;> simp [List.removeAll, h, List.eraseDups_cons]

theorem nodup_eraseDups (texts : List String) : texts.eraseDups.Nodup := by
  induction texts using List.reverseRecOn with
  | nil => exact List.nodup_nil
  | append_singleton texts text ih =>
      rw [eraseDups_concat]
      split
      · exact ih
      · rename_i hfresh
        exact List.concat_eq_append ▸ ih.concat (mt List.mem_eraseDups.mp hfresh)

namespace Catalog

theorem ofList_concat (records : List α) (record : α) :
    (ofList (records ++ [record]) : Catalog key) = (ofList records).put record := by
  rw [ofList, List.foldl_append]
  rfl

/-- A record with a key of its own goes to the end. -/
theorem putRecord_of_fresh {record : α} {records : List α} (h : key record ∉ records.map key) :
    putRecord key record records = records ++ [record] := by
  induction records with
  | nil => rfl
  | cons first rest ih =>
      rw [List.map_cons, List.mem_cons, not_or] at h
      rw [putRecord, if_neg (Ne.symm h.1), ih h.2, List.cons_append]

theorem find?_putRecord (record : α) (records : List α) (wanted : String) :
    (putRecord key record records).find? (fun other => key other == wanted) =
      if key record = wanted then some record
      else records.find? fun other => key other == wanted := by
  induction records with
  | nil => by_cases h : key record = wanted <;> simp [putRecord, h]
  | cons first rest ih =>
      unfold putRecord
      by_cases hsame : key first = key record
      · rw [if_pos hsame]
        by_cases h : key record = wanted <;> simp [hsame, h]
      · rw [if_neg hsame]
        by_cases hfirst : key first = wanted
        · have hother : key record ≠ wanted := fun h => hsame (hfirst.trans h.symm)
          simp [hfirst, hother]
        · simp [hfirst, ih]

/-- The record that a catalog has under a key is the last one of the list with that key. -/
theorem find?_ofList (records : List α) (wanted : String) :
    (ofList records : Catalog key).find? wanted = lastWith? key records wanted := by
  induction records using List.reverseRecOn with
  | nil => rfl
  | append_singleton records record ih =>
      rw [ofList_concat, lastWith?_concat, ← ih]
      exact find?_putRecord record _ wanted

theorem map_key_ofList (records : List α) :
    (ofList records : Catalog key).records.map key = (records.map key).eraseDups := by
  induction records using List.reverseRecOn with
  | nil => rfl
  | append_singleton records record ih =>
      rw [ofList_concat, List.map_append, List.map_singleton, eraseDups_concat]
      change (putRecord key record _).map key = _
      rw [map_key_putRecord, ih]
      simp only [List.mem_eraseDups]

/-- Records with distinct keys are what is found under their keys. -/
theorem filterMap_find?_of_nodup {records : List α} (h : (records.map key).Nodup) :
    (records.map key).filterMap (fun wanted => records.find? fun other => key other == wanted) =
      records := by
  have hfind : ∀ record ∈ records,
      records.find? (fun other => key other == key record) = some record := by
    intro record hmem
    induction records with
    | nil => cases hmem
    | cons first rest ih =>
        rw [List.map_cons, List.nodup_cons] at h
        rcases List.mem_cons.mp hmem with rfl | hrest
        · simp
        · have hne : key first ≠ key record := fun heq =>
            h.1 (heq ▸ List.mem_map_of_mem hrest)
          rw [List.find?_cons_of_neg (by simpa using hne)]
          exact ih h.2 hrest
  rw [List.filterMap_map]
  calc records.filterMap (fun record => records.find? fun other => key other == key record)
      = records.filterMap some := List.filterMap_congr hfind
    _ = records := List.filterMap_some

/-- A catalog holds the survivors of the list from which it is built. -/
theorem records_ofList (records : List α) :
    (ofList records : Catalog key).records = survivors key records := by
  have hfind : (ofList records : Catalog key).find? = lastWith? key records :=
    funext (find?_ofList records)
  rw [← filterMap_find?_of_nodup (ofList records : Catalog key).distinct, map_key_ofList,
    survivors, ← hfind]
  rfl

end Catalog

theorem nodup_survivors (records : List α) : ((survivors key records).map key).Nodup := by
  rw [← Catalog.records_ofList]
  exact (Catalog.ofList records).distinct

/-- Nothing is lost of a list whose keys are distinct. -/
theorem survivors_of_nodup {records : List α} (h : (records.map key).Nodup) :
    survivors key records = records := by
  rw [← Catalog.records_ofList]
  induction records using List.reverseRecOn with
  | nil => rfl
  | append_singleton records record ih =>
      rw [List.map_append, List.map_singleton, ← List.concat_eq_append, List.nodup_concat] at h
      rw [Catalog.ofList_concat]
      change Catalog.putRecord key record (Catalog.ofList records : Catalog key).records = _
      rw [ih h.2, Catalog.putRecord_of_fresh h.1]

/-- The catalog of what a catalog holds is the same catalog. -/
theorem Catalog.ofList_survivors (records : List α) :
    (ofList (survivors key records) : Catalog key) = ofList records := by
  apply Catalog.ext
  rw [records_ofList, records_ofList, survivors_of_nodup (nodup_survivors records)]

theorem mem_survivors_iff {records : List α} {record : α} :
    record ∈ survivors key records ↔ lastWith? key records (key record) = some record := by
  unfold survivors
  rw [List.mem_filterMap]
  constructor
  · rintro ⟨wanted, -, hlast⟩
    rwa [(mem_of_lastWith? hlast).2]
  · intro hlast
    refine ⟨key record, List.mem_eraseDups.mpr ?_, hlast⟩
    exact List.mem_map_of_mem (mem_of_lastWith? hlast).1

/-- The last record for a key is the only one of those that survive. -/
theorem lastWith?_survivors (records : List α) (wanted : String) :
    lastWith? key (survivors key records) wanted = lastWith? key records wanted := by
  ext record
  rw [lastWith?_eq_some_iff (nodup_survivors records), mem_survivors_iff]
  constructor
  · rintro ⟨hlast, rfl⟩
    exact hlast
  · intro hlast
    obtain ⟨-, rfl⟩ := mem_of_lastWith? hlast
    exact ⟨hlast, rfl⟩

/-! ## Indexes -/

namespace Index

/-- An index finds the last record with a text, unless the text is empty. -/
theorem find?_ofList (records : List α) (wanted : String) :
    (ofList field records).find? wanted =
      if wanted = "" then none else lastWith? field records wanted := by
  induction records using List.reverseRecOn with
  | nil => simp [ofList]
  | append_singleton records record ih =>
      rw [ofList, List.foldl_append]
      change (if field record = "" then ofList field records
        else (ofList field records).set (field record) record).find? wanted = _
      rw [lastWith?_concat]
      by_cases hempty : field record = ""
      · rw [if_pos hempty, ih]
        by_cases hwanted : wanted = ""
        · simp [hwanted]
        · rw [if_neg hwanted, if_neg hwanted, if_neg fun h => hwanted (h.symm.trans hempty)]
      · rw [if_neg hempty, find?_set, ih]
        by_cases hwanted : wanted = field record
        · subst hwanted
          simp [hempty]
        · rw [if_neg hwanted, if_neg (Ne.symm hwanted)]

end Index

/-- Through positions a catalog finds the last of its records with a text, unless the text is
empty. -/
theorem Catalog.findIn?_positions (catalog : Catalog key) (field : α → String) (wanted : String) :
    catalog.findIn? (catalog.positions field) wanted =
      if wanted = "" then none else lastWith? field catalog.records wanted := by
  unfold findIn? positions
  rw [Index.find?_ofList]
  split
  · rfl
  · rw [← lastWith?_map, List.map_get_finRange]

end StorageSurvey.Survey
