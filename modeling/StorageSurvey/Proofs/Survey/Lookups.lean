import StorageSurvey.Proofs.Survey.Joins

/-!
# Looking up and selecting

A text is looked up in one index after the other, and what the first of them finds is the answer.
A selection by the same text goes through all records and keeps those of which some key is the text.
Both are about the same fields, so both can be said of the plain list of records: what is looked up
is the last record with the text in the first field in which some record has it (`lookUp?`), what is
selected are all records with the text in some field (`hasText`).  Records that are not selected
make no difference to what is looked up, which is therefore one of the selected records.
-/

namespace StorageSurvey.Survey

open StorageSurvey.Inventory

section

variable {α : Type} {fields : List (α → String)} {records : List α} {wanted : String} {found : α}

/-! ## Lists of records with several fields -/

/-- The last record with a text in the first of the fields in which some record has it. -/
def lookUp? (fields : List (α → String)) (records : List α) (wanted : String) : Option α :=
  fields.findSome? fun field => lastWith? field records wanted

/-- Whether a record has a text in one of the fields. -/
def hasText (fields : List (α → String)) (wanted : String) (record : α) : Bool :=
  fields.any fun field => field record == wanted

@[simp] theorem lookUp?_nil : lookUp? [] records wanted = none := rfl

theorem lookUp?_cons (field : α → String) :
    lookUp? (field :: fields) records wanted =
      (lastWith? field records wanted).or (lookUp? fields records wanted) := by
  unfold lookUp?
  rw [List.findSome?_cons]
  cases lastWith? field records wanted <;> rfl

theorem lookUp?_congr {others : List α}
    (h : ∀ field ∈ fields, lastWith? field records wanted = lastWith? field others wanted) :
    lookUp? fields records wanted = lookUp? fields others wanted := by
  induction fields with
  | nil => rfl
  | cons field fields ih =>
      obtain ⟨hfield, hfields⟩ := List.forall_mem_cons.mp h
      rw [lookUp?_cons, lookUp?_cons, hfield, ih hfields]

theorem mem_of_lookUp? (h : lookUp? fields records wanted = some found) : found ∈ records := by
  obtain ⟨field, -, hfound⟩ := List.exists_of_findSome?_eq_some h
  exact (mem_of_lastWith? hfound).1

/-- What is looked up has the text in the first field, unless no record has it there; then the other
fields decide. -/
theorem of_lookUp?_cons {field : α → String}
    (h : lookUp? (field :: fields) records wanted = some found) :
    field found = wanted ∨
      (∀ record ∈ records, field record ≠ wanted) ∧ lookUp? fields records wanted = some found := by
  rw [lookUp?_cons] at h
  cases hlast : lastWith? field records wanted with
  | none =>
      rw [hlast, Option.none_or] at h
      refine .inr ⟨?_, h⟩
      intro record hmem
      exact ne_of_lastWith?_eq_none hlast hmem
  | some last =>
      rw [hlast, Option.some_or] at h
      cases h
      exact .inl (mem_of_lastWith? hlast).2

/-- Nothing is looked up exactly if no record has the text. -/
theorem lookUp?_eq_none_iff :
    lookUp? fields records wanted = none ↔ records.filter (hasText fields wanted) = [] := by
  unfold lookUp? hasText
  rw [List.findSome?_eq_none_iff, List.filter_eq_nil_iff]
  constructor
  · intro h record hmem hany
    obtain ⟨field, hfield, heq⟩ := List.any_eq_true.mp hany
    exact ne_of_lastWith?_eq_none (h field hfield) hmem (beq_iff_eq.mp heq)
  · intro h field hfield
    refine lastWith?_eq_none_iff.mpr fun hmem => ?_
    obtain ⟨record, hrecord, heq⟩ := List.mem_map.mp hmem
    exact h record hrecord (List.any_eq_true.mpr ⟨field, hfield, beq_iff_eq.mpr heq⟩)

/-- Records without the text make no difference to what is looked up. -/
theorem lookUp?_filter :
    lookUp? fields (records.filter (hasText fields wanted)) wanted =
      lookUp? fields records wanted := by
  refine lookUp?_congr fun field hfield => ?_
  unfold lastWith?
  rw [List.filter_filter]
  congr 1
  refine List.filter_congr fun record _ => ?_
  cases heq : field record == wanted with
  | false => rfl
  | true => exact List.any_eq_true.mpr ⟨field, hfield, heq⟩

/-- If items are named by the texts of their fields, what one text selects is the sublist of the
items that have it; the empty text selects nothing. -/
theorem items_select_one {named : α → String → Bool}
    (hnamed : ∀ item text, named item text = (text ≠ "" && hasText fields text item)) :
    (select named [wanted] records).items =
      if wanted = "" then [] else records.filter (hasText fields wanted) := by
  rw [items_select]
  split
  · rename_i hempty
    refine List.filter_eq_nil_iff.mpr ?_
    intro record _
    simp [isWanted, hnamed, hempty]
  · rename_i hwanted
    refine List.filter_congr ?_
    intro record _
    simp [isWanted, hnamed, hwanted]

end

/-! ## Volumes -/

/-- The fields by which a volume is looked up, one after the other. -/
def volumeFields : List (Volume → String) :=
  [Volume.id, Volume.name]

/-- The empty text is no name, but it can be an identifier. -/
theorem find?_ofList_volumes (volumes : List Volume) (key : String) :
    (Volumes.ofList volumes).find? key =
      if key = "" then lastWith? Volume.id volumes key
      else lookUp? volumeFields (survivors Volume.id volumes) key := by
  have hid : (Volumes.ofList volumes).byId? key = lastWith? Volume.id volumes key :=
    Catalog.find?_ofList volumes key
  unfold Volumes.find?
  rw [hid, byName?_ofList, volumeNamed?, Option.orElse_eq_orElse, Option.orElse_eq_or]
  split
  · rw [Option.or_none]
  · rw [volumeFields, lookUp?_cons, lookUp?_cons, lookUp?_nil, lastWith?_survivors, Option.or_none]

theorem namesVolume_eq (volume : Volume) (key : String) :
    namesVolume volume key = (key ≠ "" && hasText volumeFields key volume) := by
  simp [namesVolume, hasText, volumeFields]

/-- The volumes that are selected by one text. -/
theorem items_select_volume (volumes : List Volume) (key : String) :
    ((Volumes.ofList volumes).select [key]).items =
      if key = "" then []
      else (survivors Volume.id volumes).filter (hasText volumeFields key) := by
  rw [select_ofList_volumes]
  exact items_select_one namesVolume_eq

/-! ## Nodes -/

/-- The fields by which a node is looked up, one after the other. -/
def nodeFields : List (Node → String) :=
  [Node.id, Node.hostname, Node.managementIp, Node.schedulerName]

theorem find?_ofList_nodes (nodes : List Node) (key : String) :
    (Nodes.ofList nodes).find? key =
      if key = "" then none else lookUp? nodeFields (survivors Node.id nodes) key := by
  unfold Nodes.find? Nodes.ofList Nodes.byId? Nodes.byHostname? Nodes.byManagementIp?
    Nodes.bySchedulerName?
  simp only [Catalog.findIn?_positions, Catalog.find?_ofList, Catalog.records_ofList]
  split
  · rfl
  · rw [nodeFields, lookUp?_cons, lookUp?_cons, lookUp?_cons, lookUp?_cons, lookUp?_nil,
      lastWith?_survivors, Option.or_none]
    simp only [Option.orElse_eq_orElse, Option.orElse_eq_or]

theorem namesNode_eq (node : Node) (key : String) :
    namesNode node key = (key ≠ "" && hasText nodeFields key node) := by
  simp [namesNode, hasText, nodeFields, Bool.or_assoc]

/-- The nodes that are selected by one text. -/
theorem items_select_node (nodes : List Node) (key : String) :
    ((Nodes.ofList nodes).select [key]).items =
      if key = "" then [] else (survivors Node.id nodes).filter (hasText nodeFields key) := by
  rw [select_ofList_nodes]
  exact items_select_one namesNode_eq

/-- A node is looked up by a text exactly if one is selected by it, and it is one of those that are
selected: the one with this identifier, if there is one, and else one with this host name, or else
with this address, or else with this scheduler name. -/
theorem find?_iff_select_node (nodes : List Node) (key : String) :
    let index := Nodes.ofList nodes
    let kept := (index.select [key]).items
    ((index.find? key).isSome ↔ kept ≠ []) ∧
      ∀ found, index.find? key = some found →
        found ∈ kept ∧
        (∀ node ∈ kept, node.id = key → found = node) ∧
        ((∀ node ∈ kept, node.id ≠ key) →
          if ∃ node ∈ kept, node.hostname = key then found.hostname = key
          else if ∃ node ∈ kept, node.managementIp = key then found.managementIp = key
          else found.schedulerName = key) := by
  intro index kept
  have hkept : kept = _ := items_select_node nodes key
  have hfind : index.find? key = _ := find?_ofList_nodes nodes key
  by_cases hkey : key = ""
  · rw [if_pos hkey] at hkept hfind
    simp [hkept, hfind]
  rw [if_neg hkey] at hkept hfind
  have hdistinct : (kept.map Node.id).Nodup := by
    rw [hkept]
    exact (nodup_survivors nodes).sublist (List.filter_sublist.map Node.id)
  refine ⟨?_, fun found hfound => ?_⟩
  · rw [hfind, hkept, Option.isSome_iff_ne_none, Ne, lookUp?_eq_none_iff]
  -- what is looked up among all nodes is looked up among those that are kept
  rw [hfind, ← lookUp?_filter, ← hkept, nodeFields] at hfound
  have hmem : found ∈ kept := mem_of_lookUp? hfound
  refine ⟨hmem, ?_, ?_⟩
  · intro node hnode hsame
    rcases of_lookUp?_cons hfound with hid | ⟨hnone, -⟩
    · exact List.inj_on_of_nodup_map hdistinct hmem hnode (hid.trans hsame.symm)
    · exact absurd hsame (hnone node hnode)
  · intro hnoId
    obtain ⟨-, hothers⟩ := (of_lookUp?_cons hfound).resolve_left (hnoId found hmem)
    rcases of_lookUp?_cons hothers with hhost | ⟨hnoHost, hothers⟩
    · rw [if_pos ⟨found, hmem, hhost⟩]
      exact hhost
    rw [if_neg fun ⟨node, hnode, hsame⟩ => hnoHost node hnode hsame]
    rcases of_lookUp?_cons hothers with haddress | ⟨hnoAddress, hothers⟩
    · rw [if_pos ⟨found, hmem, haddress⟩]
      exact haddress
    rw [if_neg fun ⟨node, hnode, hsame⟩ => hnoAddress node hnode hsame]
    rcases of_lookUp?_cons hothers with hscheduler | ⟨-, hnothing⟩
    · exact hscheduler
    · cases hnothing

/-- Four records of nodes, of which the last one takes the place of the first; the name of a host is
the address of another one and the scheduler name of a third one. -/
def crossedNodes : List Node := [
  { Node.blank with id := "a", hostname := "x" },
  { Node.blank with id := "b", managementIp := "x" },
  { Node.blank with id := "c", hostname := "x", managementIp := "a" },
  { Node.blank with id := "a", hostname := "y", schedulerName := "x" }]

/-- All three nodes are selected, and the one with the host name is looked up. -/
theorem crossedNodes_looked_up :
    ((Nodes.ofList crossedNodes).select ["x"]).items.map Node.id = ["a", "b", "c"] ∧
      ∃ found, (Nodes.ofList crossedNodes).find? "x" = some found ∧
        found ∈ ((Nodes.ofList crossedNodes).select ["x"]).items ∧ found.hostname = "x" := by
  obtain ⟨hsome, hfound⟩ := find?_iff_select_node crossedNodes "x"
  obtain ⟨found, hfind⟩ := Option.isSome_iff_exists.mp (hsome.mpr (by decide))
  obtain ⟨hmem, -, hhost⟩ := hfound found hfind
  have hnoId : ∀ node ∈ ((Nodes.ofList crossedNodes).select ["x"]).items, node.id ≠ "x" := by
    decide
  have hsomeHost :
      ∃ node ∈ ((Nodes.ofList crossedNodes).select ["x"]).items, node.hostname = "x" := by
    decide
  have hname := hhost hnoId
  rw [if_pos hsomeHost] at hname
  exact ⟨by decide, found, hfind, hmem, hname⟩

end StorageSurvey.Survey
