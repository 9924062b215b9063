import StorageSurvey.Proofs.Survey.Lookups
import StorageSurvey.Proofs.Survey.Representation

/-!
# Which of several records with one text is found

Of several records with one host name, or of several volumes with one name, the one that was written
last should be found.  Those that no later record overwrites stand in the list in some order
(`standing`), and the last of them is the last write.  But the indexes are built over the records in
the order in which the identifiers were first mentioned (`survivors`), and a record that overwrites
an earlier one takes its place.  Both orders are of the same records, so that the two answers differ
exactly if a record with the text was first mentioned before the one that is found and written
after it: its identifier encloses the other one (`Encloses`).
-/

namespace StorageSurvey.Survey

open StorageSurvey.Inventory

variable {α : Type} {key field : α → String}

/-! ## Records in the order in which they stand -/

/-- The records that no later record with their key overwrites, in the order of the list. -/
def standing (key : α → String) : List α → List α
  | [] => []
  | record :: rest =>
      if key record ∈ rest.map key then standing key rest else record :: standing key rest

/-- Whether a text is mentioned before the first and after the last mention of another one. -/
def Encloses (texts : List String) (outer inner : String) : Prop :=
  texts.idxOf outer < texts.idxOf inner ∧ texts.reverse.idxOf outer < texts.reverse.idxOf inner

theorem mem_standing_iff {records : List α} {record : α} :
    record ∈ standing key records ↔ lastWith? key records (key record) = some record := by
  induction records with
  | nil => simp [standing]
  | cons first rest ih =>
      rw [standing, lastWith?_cons]
      split
      · rename_i hagain
        rw [ih]
        by_cases hsame : key first = key record
        · -- the first record is overwritten, so that its key is found in the rest
          have hsome : lastWith? key rest (key record) ≠ none :=
            fun hnone => lastWith?_eq_none_iff.mp hnone (hsame ▸ hagain)
          obtain ⟨last, hlast⟩ := Option.ne_none_iff_exists'.mp hsome
          rw [hlast, Option.some_or]
        · rw [if_neg hsame, Option.or_none]
      · rename_i hfresh
        rw [List.mem_cons, ih]
        by_cases hsame : key first = key record
        · rw [if_pos hsame, lastWith?_eq_none_iff.mpr (hsame ▸ hfresh), Option.none_or]
          simp [eq_comm]
        · rw [if_neg hsame, Option.or_none]
          exact or_iff_right fun h => hsame (congrArg key h.symm)

theorem mem_standing_iff_mem_survivors {records : List α} {record : α} :
    record ∈ standing key records ↔ record ∈ survivors key records :=
  mem_standing_iff.trans mem_survivors_iff.symm

theorem mem_map_of_mem_standing {records : List α} {record : α}
    (h : record ∈ standing key records) : key record ∈ records.map key :=
  List.mem_map_of_mem (mem_of_lastWith? (mem_standing_iff.mp h)).1

/-- Records stand in the order of the last mentions of their keys. -/
theorem pairwise_standing (records : List α) :
    (standing key records).Pairwise fun first second =>
      (records.map key).reverse.idxOf (key second) <
        (records.map key).reverse.idxOf (key first) := by
  induction records with
  | nil => exact .nil
  | cons first rest ih =>
      rw [List.map_cons, List.reverse_cons, standing]
      have hmentioned : ∀ record ∈ standing key rest, key record ∈ (rest.map key).reverse := by
        intro record hmem
        exact List.mem_reverse.mpr (mem_map_of_mem_standing hmem)
      -- one more mention at the front changes the place of no last mention
      have hrest : (standing key rest).Pairwise fun a b =>
          ((rest.map key).reverse ++ [key first]).idxOf (key b) <
            ((rest.map key).reverse ++ [key first]).idxOf (key a) := by
        refine ih.imp_of_mem ?_
        intro a b ha hb hlt
        rwa [List.idxOf_append_of_mem (hmentioned a ha), List.idxOf_append_of_mem (hmentioned b hb)]
      split
      · exact hrest
      · rename_i hfresh
        refine List.pairwise_cons.mpr ⟨?_, hrest⟩
        intro record hmem
        calc ((rest.map key).reverse ++ [key first]).idxOf (key record)
            = (rest.map key).reverse.idxOf (key record) :=
              List.idxOf_append_of_mem (hmentioned record hmem)
          _ < (rest.map key).reverse.length := List.idxOf_lt_length_of_mem (hmentioned record hmem)
          _ ≤ ((rest.map key).reverse ++ [key first]).idxOf (key first) := by
              rw [List.idxOf_append_of_notMem (mt List.mem_reverse.mp hfresh)]
              exact Nat.le_add_right _ _

/-- Records survive in the order of the first mentions of their keys. -/
theorem pairwise_survivors (records : List α) :
    (survivors key records).Pairwise fun first second =>
      (records.map key).idxOf (key first) < (records.map key).idxOf (key second) := by
  rw [← Catalog.records_ofList]
  exact (Catalog.deduplicates records).ordered

/-! ## The last of the records with a text -/

/-- In a list that is in order, the last record with a text is the one that no other comes after. -/
theorem lastWith?_eq_some_iff_of_pairwise {R : α → α → Prop} (hasymm : ∀ a b, R a b → ¬ R b a)
    {records : List α} (hordered : records.Pairwise R) {wanted : String} {record : α} :
    lastWith? field records wanted = some record ↔
      record ∈ records ∧ field record = wanted ∧
        ∀ other ∈ records, field other = wanted → ¬ R record other := by
  rw [lastWith?_eq_some_iff_isLastWith]
  constructor
  · rintro ⟨before, after, rfl, hfield, hafter⟩
    obtain ⟨-, -, hbefore⟩ := List.pairwise_append.mp hordered
    refine ⟨List.mem_append_right _ List.mem_cons_self, hfield, ?_⟩
    intro other hmem hsame
    rw [List.mem_append, List.mem_cons] at hmem
    rcases hmem with hearlier | rfl | hlater
    · exact hasymm _ _ (hbefore other hearlier record List.mem_cons_self)
    · intro h
      exact hasymm _ _ h h
    · exact absurd hsame (hafter other hlater)
  · rintro ⟨hmem, hfield, hlast⟩
    obtain ⟨before, after, rfl⟩ := List.append_of_mem hmem
    obtain ⟨-, hrest, -⟩ := List.pairwise_append.mp hordered
    refine ⟨before, after, rfl, hfield, ?_⟩
    intro later hlater hsame
    apply hlast later (List.mem_append_right _ (List.mem_cons_of_mem _ hlater)) hsame
    exact List.rel_of_pairwise_cons hrest hlater

/-- Whether the record that is found under a text is not the one that was written last: the key of
another record with the text encloses its key. -/
def LastWriteLost (key field : α → String) (records : List α) (wanted : String) : Prop :=
  ∃ found, lastWith? field (survivors key records) wanted = some found ∧
    ∃ other ∈ standing key records, field other = wanted ∧
      Encloses (records.map key) (key other) (key found)

/-- The last record with a text is the same in both orders exactly if the last write is not lost. -/
theorem lastWith?_survivors_eq_iff (records : List α) (wanted : String) :
    lastWith? field (survivors key records) wanted =
        lastWith? field (standing key records) wanted ↔
      ¬ LastWriteLost key field records wanted := by
  have hsurvives : ∀ {record : α},
      lastWith? field (survivors key records) wanted = some record ↔ _ :=
    lastWith?_eq_some_iff_of_pairwise (fun _ _ => Nat.lt_asymm) (pairwise_survivors records)
  have hstands : ∀ {record : α},
      lastWith? field (standing key records) wanted = some record ↔ _ :=
    lastWith?_eq_some_iff_of_pairwise (fun _ _ => Nat.lt_asymm) (pairwise_standing records)
  constructor
  · rintro heq ⟨found, hfound, other, hmem, hother, -, hafter⟩
    obtain ⟨-, -, hlast⟩ := hstands.mp (heq ▸ hfound)
    exact hlast other hmem hother hafter
  · intro hkept
    cases hfound : lastWith? field (survivors key records) wanted with
    | none =>
        symm
        refine lastWith?_eq_none_iff.mpr fun hmem => ?_
        obtain ⟨record, hrecord, hsame⟩ := List.mem_map.mp hmem
        exact ne_of_lastWith?_eq_none hfound (mem_standing_iff_mem_survivors.mp hrecord) hsame
    | some found =>
        obtain ⟨hmem, hfield, hlast⟩ := hsurvives.mp hfound
        have hmemStanding := mem_standing_iff_mem_survivors.mpr hmem
        symm
        refine hstands.mpr ⟨hmemStanding, hfield, ?_⟩
        intro other hother hsame hafter
        have hnotAfter := hlast other (mem_standing_iff_mem_survivors.mp hother) hsame
        have hnotBefore : ¬ (records.map key).idxOf (key other) <
            (records.map key).idxOf (key found) :=
          fun hbefore => hkept ⟨found, hfound, other, hother, hsame, hbefore, hafter⟩
        -- two keys with the same first mention are one key, which has one last mention
        have hkey : key other = key found :=
          (List.idxOf_inj (mem_map_of_mem_standing hother)).mp (by omega)
        rw [hkey] at hafter
        exact Nat.lt_irrefl _ hafter

theorem standing_of_nodup {records : List α} (h : (records.map key).Nodup) :
    standing key records = records := by
  induction records with
  | nil => rfl
  | cons first rest ih =>
      obtain ⟨hfresh, hrest⟩ := List.nodup_cons.mp h
      rw [standing, if_neg hfresh, ih hrest]

/-- As long as no key is repeated, no last write is lost. -/
theorem not_lastWriteLost_of_nodup {records : List α} (h : (records.map key).Nodup)
    (wanted : String) : ¬ LastWriteLost key field records wanted := by
  rw [← lastWith?_survivors_eq_iff, survivors_of_nodup h, standing_of_nodup h]

/-! ## Several fields -/

/-- The first of the fields in which some record has a text. -/
def decidingField? (fields : List (α → String)) (records : List α) (wanted : String) :
    Option (α → String) :=
  fields.find? fun field => records.any fun record => field record == wanted

theorem lookUp?_eq_bind (fields : List (α → String)) (records : List α) (wanted : String) :
    lookUp? fields records wanted =
      (decidingField? fields records wanted).bind fun field => lastWith? field records wanted := by
  unfold decidingField?
  induction fields with
  | nil => rfl
  | cons field fields ih =>
      rw [lookUp?_cons, List.find?_cons, ih]
      cases hlast : lastWith? field records wanted with
      | none =>
          have hnone : (records.any fun record => field record == wanted) = false := by
            rw [List.any_eq_false]
            intro record hmem
            simpa using ne_of_lastWith?_eq_none hlast hmem
          rw [hnone, Option.none_or]
      | some record =>
          obtain ⟨hmem, hsame⟩ := mem_of_lastWith? hlast
          have hsome : (records.any fun record => field record == wanted) = true :=
            List.any_eq_true.mpr ⟨record, hmem, beq_iff_eq.mpr hsame⟩
          rw [hsome, Option.some_or, Option.bind_some, hlast]

theorem decidingField?_survivors (fields : List (α → String)) (records : List α)
    (wanted : String) :
    decidingField? fields (survivors key records) wanted =
      decidingField? fields (standing key records) wanted := by
  unfold decidingField?
  congr 1
  funext field
  rw [Bool.eq_iff_iff, List.any_eq_true, List.any_eq_true]
  simp only [mem_standing_iff_mem_survivors]

/-- The last write is found in several fields exactly if it is not lost in the one that decides. -/
theorem lookUp?_survivors_eq_iff (fields : List (α → String)) (records : List α)
    (wanted : String) :
    lookUp? fields (survivors key records) wanted =
        lookUp? fields (standing key records) wanted ↔
      ∀ field, decidingField? fields (standing key records) wanted = some field →
        ¬ LastWriteLost key field records wanted := by
  rw [lookUp?_eq_bind, lookUp?_eq_bind, decidingField?_survivors]
  cases decidingField? fields (standing key records) wanted with
  | none => simp
  | some field =>
      rw [Option.bind_some, Option.bind_some, lastWith?_survivors_eq_iff]
      constructor
      · rintro hkept _ ⟨⟩
        exact hkept
      · intro hkept
        exact hkept field rfl

/-! ## Nodes and volumes -/

/-- The fields by which a node is looked up if the text is no identifier. -/
def otherNodeFields : List (Node → String) :=
  [Node.hostname, Node.managementIp, Node.schedulerName]

/-- A text that is no identifier leads to the node whose identifier is first mentioned after those
of all others that have the text, and a name leads to such a volume.  It is the one that was written
last exactly if the identifier of no other one encloses its identifier. -/
theorem last_write_found_iff {key : String} (hkey : key ≠ "") {nodes : List Node}
    (hid : isKnown nodes key = false) {name : String} (hname : name ≠ "")
    (volumes : List Volume) :
    (Nodes.ofList nodes).find? key =
        lookUp? otherNodeFields (survivors Node.id nodes) key ∧
      ((Nodes.ofList nodes).find? key = lookUp? otherNodeFields (standing Node.id nodes) key ↔
        ∀ field, decidingField? otherNodeFields (standing Node.id nodes) key = some field →
          ¬ LastWriteLost Node.id field nodes key) ∧
      (Volumes.ofList volumes).byName? name =
        lastWith? Volume.name (survivors Volume.id volumes) name ∧
      ((Volumes.ofList volumes).byName? name =
          lastWith? Volume.name (standing Volume.id volumes) name ↔
        ¬ LastWriteLost Volume.id Volume.name volumes name) := by
  have hnode : (Nodes.ofList nodes).find? key =
      lookUp? otherNodeFields (survivors Node.id nodes) key := by
    rw [find?_ofList_nodes, if_neg hkey, nodeFields, lookUp?_cons, lastWith?_survivors,
      lastWith?_id_eq_none_iff.mpr hid, Option.none_or, otherNodeFields]
  have hvolume : (Volumes.ofList volumes).byName? name =
      lastWith? Volume.name (survivors Volume.id volumes) name := by
    rw [byName?_ofList, volumeNamed?, if_neg hname]
  refine ⟨hnode, ?_, hvolume, ?_⟩
  · rw [hnode]
    exact lookUp?_survivors_eq_iff otherNodeFields nodes key
  · rw [hvolume]
    exact lastWith?_survivors_eq_iff volumes name

/-- Three nodes with one host name, of which the last one takes the place of the first. -/
def rewrittenNodes : List Node := [
  { Node.blank with id := "a", hostname := "h" },
  { Node.blank with id := "b", hostname := "h" },
  { Node.blank with id := "a", hostname := "h", version := some "2" }]

/-- Three volumes with one name, of which the last one takes the place of the first. -/
def rewrittenVolumes : List Volume := [
  { Volume.blank with id := "1", name := "v" },
  { Volume.blank with id := "2", name := "v" },
  { Volume.blank with id := "1", name := "v", size := 1 }]

/-- The records that were written last are not the ones that are found. -/
theorem rewritten_last_write_lost :
    isKnown rewrittenNodes "h" = false ∧
      ((Nodes.ofList rewrittenNodes).find? "h").map Node.id = some "b" ∧
      (lookUp? otherNodeFields (standing Node.id rewrittenNodes) "h").map Node.id = some "a" ∧
      LastWriteLost Node.id Node.hostname rewrittenNodes "h" ∧
      ((Volumes.ofList rewrittenVolumes).byName? "v").map Volume.id = some "2" ∧
      (lastWith? Volume.name (standing Volume.id rewrittenVolumes) "v").map Volume.id = some "1" ∧
      LastWriteLost Volume.id Volume.name rewrittenVolumes "v" := by
  have hid : isKnown rewrittenNodes "h" = false := by decide
  obtain ⟨-, hnode, -, hvolume⟩ :=
    last_write_found_iff (by decide) hid (by decide : "v" ≠ "") rewrittenVolumes
  refine ⟨hid, by decide, by decide, ?_, by decide, by decide, ?_⟩
  · have hdecides : decidingField? otherNodeFields (standing Node.id rewrittenNodes) "h" =
        some Node.hostname := rfl
    by_contra hkept
    refine absurd (hnode.mpr ?_) (by decide)
    intro field hfield
    rw [hdecides] at hfield
    cases hfield
    exact hkept
  · by_contra hkept
    exact absurd (hvolume.mpr hkept) (by decide)

end StorageSurvey.Survey
