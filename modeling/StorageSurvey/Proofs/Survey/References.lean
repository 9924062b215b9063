import StorageSurvey.Proofs.Survey.Topologies

/-!
# The nodes that volumes refer to

A volume refers to nodes where it is attached and where its copies are placed.  The references are
collected in one pass, attachments are resolved in another one and placements in a third.  All three
go by the same mentions: an attachment that is empty is none, a placement always is one, and the
empty identifier is an identifier like any other.  So the references tell, once for all volumes,
whether everything that is asked about their attachments and placements has an answer.
-/

namespace StorageSurvey.Survey

open StorageSurvey.Inventory

/-! ## Mentions -/

/-- The identifiers that the volumes mention: of each volume that of its attachment, if it has one,
then those of its placements in their order. -/
def mentions (volumes : List Volume) : List String :=
  volumes.flatMap fun volume =>
    (if volume.attachedOn = "" then [] else [volume.attachedOn]) ++
      (placements volume).map fun placed => placed.2.nodeId

/-- Whether texts are those that are mentioned, each once and in the order of the first mentions. -/
structure FirstMentions (mentioned texts : List String) : Prop where
  distinct : texts.Nodup
  mem_iff : ∀ text, text ∈ texts ↔ text ∈ mentioned
  ordered : texts.Pairwise fun first second => mentioned.idxOf first < mentioned.idxOf second

theorem firstMentions_eraseDups (mentioned : List String) :
    FirstMentions mentioned mentioned.eraseDups where
  distinct := nodup_eraseDups mentioned
  mem_iff _ := List.mem_eraseDups
  ordered := pairwise_idxOf_eraseDups mentioned

/-- The pass that collects the references comes to the placements in their order. -/
theorem namedNodes_eq (volume : Volume) :
    namedNodes volume =
      (if volume.attachedOn = "" then [] else [volume.attachedOn]) ++
        (placements volume).map fun placed => placed.2.nodeId := by
  rw [namedNodes, placements, List.map_flatMap]
  simp only [List.map_map, Function.comp_def]

theorem firstMentions_referencedNodes (volumes : List Volume) :
    FirstMentions (mentions volumes) (referencedNodes volumes) := by
  rw [referencedNodes, funext namedNodes_eq]
  exact firstMentions_eraseDups (mentions volumes)

theorem mem_mentions_iff {volumes : List Volume} {id : String} :
    id ∈ mentions volumes ↔ ∃ volume ∈ volumes,
      (volume.attachedOn ≠ "" ∧ id = volume.attachedOn) ∨
        ∃ placed ∈ placements volume, placed.2.nodeId = id := by
  unfold mentions
  rw [List.mem_flatMap]
  refine exists_congr fun volume => and_congr_right fun _ => ?_
  rw [List.mem_append, List.mem_map]
  refine or_congr ?_ Iff.rfl
  split
  · simp [*]
  · simp [*]

/-! ## Resolving -/

theorem exists_attachedState_eq_ok_iff {nodes : List Node} {volume : Volume} :
    (∃ state, (Nodes.ofList nodes).attachedState volume = .ok state) ↔
      volume.attachedOn = "" ∨ isKnown nodes volume.attachedOn = true := by
  rw [attachedState_ofList, exists_unlessDefect_eq_ok_iff, attachmentDefect?_eq_none_iff]

/-- The references to nodes are the mentioned identifiers, each once and in the order of the first
mentions.  Every volume has a state and a topology exactly if every reference is to a node that is
found by its identifier. -/
theorem references_resolve_iff (nodes : List Node) (volumes : List Volume) :
    let index := Nodes.ofList nodes
    let references := referencedNodes volumes
    FirstMentions (mentions volumes) references ∧
      ((∀ volume ∈ volumes,
          (∃ state, index.attachedState volume = .ok state) ∧
            ∃ topology, index.replicationInfo volume = .ok topology) ↔
        ∀ id ∈ references, ∃ node, index.byId? id = some node) := by
  intro index references
  have hreferences := firstMentions_referencedNodes volumes
  refine ⟨hreferences, ?_⟩
  simp only [index, references, exists_attachedState_eq_ok_iff, exists_replicationInfo_eq_ok_iff,
    exists_byId?_ofList_iff, hreferences.mem_iff, mem_mentions_iff]
  constructor
  · rintro hresolved id ⟨volume, hvolume, ⟨hattached, rfl⟩ | ⟨placed, hplaced, rfl⟩⟩
    · exact (hresolved volume hvolume).1.resolve_left hattached
    · exact (hresolved volume hvolume).2 placed hplaced
  · intro hknown volume hvolume
    constructor
    · by_cases hattached : volume.attachedOn = ""
      · exact .inl hattached
      · exact .inr (hknown _ ⟨volume, hvolume, .inl ⟨hattached, rfl⟩⟩)
    · intro placed hplaced
      exact hknown _ ⟨volume, hvolume, .inr ⟨placed, hplaced, rfl⟩⟩

end StorageSurvey.Survey
