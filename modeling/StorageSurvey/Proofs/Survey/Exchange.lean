import StorageSurvey.Proofs.Json.OneLine
import StorageSurvey.Proofs.Json.Records
import StorageSurvey.Report.Format
import StorageSurvey.Survey.Exchange

/-!
# Topologies in documents

A topology is read back from its text.  The other way round, a text in the form of the printer that
is read as a topology is the compact text of the topology: every field is required, so a table with
the right names in the right order stands for a record only if it is the one that is written
(`ReplicationInfo.means_iff`), and a value is written in one way only without blanks.
-/

namespace StorageSurvey.Survey

open StorageSurvey.Document StorageSurvey.Json

/-! ## The rules of topologies -/

def ReplicaSetInfo.rules : List (Rule ReplicaSetInfo) := [
  ⟨"Id", .word32, ReplicaSetInfo.id, none⟩,
  ⟨"NodeInfo", .list .text, ReplicaSetInfo.nodeInfo, none⟩,
  ⟨"HaIncrease", .text, ReplicaSetInfo.haIncrease, none⟩,
  ⟨"ReAddOn", .list .text, ReplicaSetInfo.reAddOn, none⟩]

def ReplicationInfo.rules : List (Rule ReplicationInfo) := [
  ⟨"Rsi", .list (.record ReplicaSetInfo.rules), ReplicationInfo.replicaSets, none⟩,
  ⟨"Status", .text, ReplicationInfo.status, none⟩]

theorem ReplicaSetInfo.obeys : Obeys (ReplicaSetInfo.shape dialect) ReplicaSetInfo.rules where
  nodup := by decide
  ext := by
    rintro ⟨⟩ ⟨⟩ h
    simpa [rules] using h
  shapes := by
    refine .cons (.of follows_word32 ?_) <| .cons (.of (follows_list follows_text) ?_) <|
      .cons (.of follows_text ?_) <| .cons (.of (follows_list follows_text) ?_) .nil
    all_goals simp [Rule.sets_iff, rules, shape]

theorem ReplicationInfo.obeys : Obeys (ReplicationInfo.shape dialect) ReplicationInfo.rules where
  nodup := by decide
  ext := by
    rintro ⟨⟩ ⟨⟩ h
    simpa [rules] using h
  shapes := by
    refine .cons (.of (follows_list (follows_record ReplicaSetInfo.obeys)) ?_) <|
      .cons (.of follows_text ?_) .nil
    all_goals simp [Rule.sets_iff, rules, shape]

/-! ## Tables in the order of the fields -/

/-- A table with the names of a replica set in their order and no others. -/
inductive ReplicaSetInfo.InOrder : Literal → Prop
  | mk (id nodeInfo haIncrease reAddOn : Literal) :
      InOrder (.table [("Id", id), ("NodeInfo", nodeInfo), ("HaIncrease", haIncrease),
        ("ReAddOn", reAddOn)])

/-- A table with the names of a topology in their order and no others, and so for each of its
replica sets.  Nothing is asked of the values. -/
inductive ReplicationInfo.InOrder : Literal → Prop
  | mk {sets : Literal} (status : Literal)
      (hsets : ∀ items, sets = .list items → ∀ set ∈ items, ReplicaSetInfo.InOrder set) :
      InOrder (.table [("Rsi", sets), ("Status", status)])

theorem ReplicaSetInfo.InOrder.plain {value : Literal} (h : InOrder value) :
    (Kind.record rules).Plain value := by
  obtain ⟨⟩ := h
  simp only [Kind.record, rules, List.forall_mem_cons, List.not_mem_nil, false_implies,
    implies_true, and_true]
  refine ⟨fun _ _ => trivial, fun nodes _ => ?_, fun _ _ => trivial, fun others _ => ?_⟩
  · cases nodes <;> simp [Kind.list, Kind.text]
  · cases others <;> simp [Kind.list, Kind.text]

theorem ReplicationInfo.InOrder.plain {value : Literal} (h : InOrder value) :
    (Kind.record rules).Plain value := by
  obtain @⟨sets, status, hsets⟩ := h
  simp only [Kind.record, rules, List.forall_mem_cons, List.not_mem_nil, false_implies,
    implies_true, and_true]
  refine ⟨fun written hwritten => ?_, fun _ _ => trivial⟩
  obtain rfl : written = sets := by simpa [valuesOf] using hwritten
  cases written with
  | list items => exact fun set hset => (hsets items rfl set hset).plain
  | null | boolean _ | number _ | text _ | table _ => trivial

/-! ## What stands for a topology -/

theorem ReplicaSetInfo.means_iff {value : Literal} (horder : InOrder value)
    (hspelled : value.IsSpelled) (info : ReplicaSetInfo) :
    (Kind.record rules).Means value info ↔ value = literal info.toDatum := by
  obtain ⟨id, nodeInfo, haIncrease, reAddOn⟩ := horder
  have hid : id.IsSpelled := hspelled.entry List.mem_cons_self
  have hallows : (Kind.record rules).Means (.table [("Id", id), ("NodeInfo", nodeInfo),
      ("HaIncrease", haIncrease), ("ReAddOn", reAddOn)]) info ↔
      Kind.word32.Means id info.id ∧ (Kind.list .text).Means nodeInfo info.nodeInfo ∧
        Kind.text.Means haIncrease info.haIncrease ∧
        (Kind.list .text).Means reAddOn info.reAddOn := by
    simp [Kind.record, rules, valuesOf, Rule.Allows]
  rw [hallows, Kind.word32, means_natural_iff hid, means_texts_iff, means_texts_iff, toDatum]
  simp [literal, fieldLiterals, Kind.text]

/-- A table in the order of the fields stands for a topology exactly if it is written for it. -/
theorem ReplicationInfo.means_iff {value : Literal} (horder : InOrder value)
    (hspelled : value.IsSpelled) (info : ReplicationInfo) :
    (Kind.record rules).Means value info ↔ value = literal info.toDatum := by
  obtain @⟨sets, status, hsets⟩ := horder
  have hlist : (Kind.list (.record ReplicaSetInfo.rules)).Means sets info.replicaSets ↔
      sets = literal (.list (info.replicaSets.map ReplicaSetInfo.toDatum)) := by
    refine means_list_iff (fun items hitems set hset => ?_) info.replicaSets
    have hwritten : sets.IsSpelled := hspelled.entry List.mem_cons_self
    rw [hitems] at hwritten
    exact ReplicaSetInfo.means_iff (hsets items hitems set hset) (hwritten.item hset)
  have hallows : (Kind.record rules).Means (.table [("Rsi", sets), ("Status", status)]) info ↔
      (Kind.list (.record ReplicaSetInfo.rules)).Means sets info.replicaSets ∧
        Kind.text.Means status info.status := by
    simp [Kind.record, rules, valuesOf, Rule.Allows]
  rw [hallows, hlist, toDatum]
  simp [literal, fieldLiterals, Kind.text]

/-! ## Reading what is written -/

theorem ReplicationInfo.inOrder_literal (info : ReplicationInfo) :
    InOrder (literal info.toDatum) := by
  refine .mk _ fun items hitems set hset => ?_
  rw [literal, Literal.list.injEq, itemLiterals_eq_map] at hitems
  rw [← hitems, List.map_map, List.mem_map] at hset
  obtain ⟨written, -, rfl⟩ := hset
  exact .mk _ _ _ _

/-- Any text that writes a topology is read as it. -/
theorem ReplicationInfo.read_of_spells (info : ReplicationInfo) {text : List Char}
    (h : Spells (literal info.toDatum) text) :
    Json.read (shape dialect) (String.ofList text) = .ok info := by
  have horder := info.inOrder_literal
  rw [obeys.read_eq_ok_iff h horder.plain]
  exact (means_iff horder ⟨_, spellsCompact_compact info.toDatum⟩ info).mpr rfl

/-- A topology is read back from its text, over several lines and on one.  A text without blanks, in
the order of the fields and with the printer's escapes is read as a topology exactly if it is the
compact text of the topology. -/
theorem ReplicationInfo.read_written (info : ReplicationInfo) (table : Bool → String) :
    Json.read (shape dialect) (Report.render .json info.toDatum table) = .ok info ∧
      Json.read (shape dialect) (String.ofList (compact info.toDatum)) = .ok info ∧
      ∀ value text, SpellsCompact value text → InOrder value →
        (Json.read (shape dialect) (String.ofList text) = .ok info ↔
          compact info.toDatum = text) := by
  have hcompact := spellsCompact_compact info.toDatum
  refine ⟨?_, ?_, ?_⟩
  · exact info.read_of_spells (.of_bare (spells_pretty 0 info.toDatum))
  · exact info.read_of_spells (.of_bare hcompact.bare)
  · intro value text hspells horder
    constructor
    · intro hread
      rw [obeys.read_eq_ok_iff (.of_bare hspells.bare) horder.plain] at hread
      rw [(means_iff horder ⟨text, hspells⟩ info).mp hread] at hspells
      exact (eq_compact_of_spells info.toDatum hspells).symm
    · rintro rfl
      exact info.read_of_spells (.of_bare hcompact.bare)

/-- A topology with the largest number and with characters that are escaped. -/
def exchanged : ReplicationInfo :=
  ⟨[⟨4294967295, ["h \"1\" (Pool 0)", "é\n"], "", []⟩], "\x01"⟩

def exchangedText : String :=
  "\x7b\"Rsi\":[\x7b\"Id\":4294967295,\"NodeInfo\":[\"h \\\"1\\\" (Pool 0)\",\"é\\n\"]," ++
    "\"HaIncrease\":\"\",\"ReAddOn\":[]\x7d],\"Status\":\"\\u0001\"\x7d"

theorem ReplicationInfo.read_exchanged :
    SpellsCompact (literal exchanged.toDatum) exchangedText.toList ∧
      InOrder (literal exchanged.toDatum) ∧
      Json.read (shape dialect) exchangedText = .ok exchanged := by
  have htext : compact exchanged.toDatum = exchangedText.toList := by decide +kernel
  have hspells : SpellsCompact (literal exchanged.toDatum) exchangedText.toList :=
    htext ▸ spellsCompact_compact exchanged.toDatum
  have horder := exchanged.inOrder_literal
  obtain ⟨-, -, hread⟩ := read_written exchanged fun _ => ""
  refine ⟨hspells, horder, ?_⟩
  have h := (hread _ _ hspells horder).mpr htext
  rwa [String.ofList_toList] at h

end StorageSurvey.Survey
