import StorageSurvey.Commands.Builtin
import StorageSurvey.Proofs.Survey.Containers
import StorageSurvey.Proofs.Survey.Joins

/-!
# What the commands on nodes, volumes and claims answer

A command keeps the nodes, volumes or claims that are wanted, and goes through them one after the
other.  It fails with the first defect that it comes to, and otherwise shows all that it kept.  So
every answer is one equation over the lists of the snapshot: which items are kept, the first defect
among them, what is made of each, and the first identifier that names none of them.

`Outcome` says the same of an answer without the text that is written, by what the text shows.
-/

namespace StorageSurvey.Commands

open StorageSurvey.Inventory StorageSurvey.Report StorageSurvey.Survey

/-! ## What is kept -/

/-- The nodes that are wanted, in the order in which their identifiers are first seen. -/
def keptNodes (snapshot : Snapshot) (identifiers : List String) : List Node :=
  (survivors Node.id snapshot.nodes).filter (isWanted namesNode identifiers)

/-- The volumes that are wanted, in the order in which their identifiers are first seen. -/
def keptVolumes (snapshot : Snapshot) (identifiers : List String) : List Volume :=
  (survivors Volume.id snapshot.volumes).filter (isWanted namesVolume identifiers)

/-- The claims that are wanted, in their order. -/
def keptClaims (snapshot : Snapshot) (identifiers : List String) : List CorrelatedClaim :=
  (joinedClaims snapshot).filter (isWanted (namesClaim snapshot.nodes) identifiers)

/-- Without identifiers everything is wanted. -/
theorem keptNodes_nil (snapshot : Snapshot) :
    keptNodes snapshot [] = survivors Node.id snapshot.nodes :=
  List.filter_eq_self.mpr fun _ _ => rfl

theorem keptVolumes_nil (snapshot : Snapshot) :
    keptVolumes snapshot [] = survivors Volume.id snapshot.volumes :=
  List.filter_eq_self.mpr fun _ _ => rfl

theorem keptClaims_nil (snapshot : Snapshot) : keptClaims snapshot [] = joinedClaims snapshot :=
  List.filter_eq_self.mpr fun _ _ => rfl

theorem select_nodes (snapshot : Snapshot) (identifiers : List String) :
    ((View.ofSnapshot snapshot).nodes.select identifiers).items =
        keptNodes snapshot identifiers ∧
      ((View.ofSnapshot snapshot).nodes.select identifiers).failure? =
        missing? namesNode identifiers (keptNodes snapshot identifiers) := by
  change ((Nodes.ofList snapshot.nodes).select identifiers).items = _ ∧
    ((Nodes.ofList snapshot.nodes).select identifiers).failure? = _
  rw [select_ofList_nodes, items_select, failure?_select, keptNodes, missing?_filter_isWanted]
  exact ⟨rfl, rfl⟩

theorem select_volumes (snapshot : Snapshot) (identifiers : List String) :
    ((View.ofSnapshot snapshot).volumes.select identifiers).items =
        keptVolumes snapshot identifiers ∧
      ((View.ofSnapshot snapshot).volumes.select identifiers).failure? =
        missing? namesVolume identifiers (keptVolumes snapshot identifiers) := by
  change ((Volumes.ofList snapshot.volumes).select identifiers).items = _ ∧
    ((Volumes.ofList snapshot.volumes).select identifiers).failure? = _
  rw [select_ofList_volumes, items_select, failure?_select, keptVolumes, missing?_filter_isWanted]
  exact ⟨rfl, rfl⟩

/-- If only the wanted volumes are left, they are still the ones that are wanted. -/
theorem keptVolumes_of_kept (snapshot : Snapshot) (identifiers : List String) :
    keptVolumes { snapshot with volumes := keptVolumes snapshot identifiers } identifiers =
      keptVolumes snapshot identifiers := by
  have hdistinct : ((keptVolumes snapshot identifiers).map Volume.id).Nodup :=
    (nodup_survivors snapshot.volumes).sublist (List.filter_sublist.map Volume.id)
  rw [keptVolumes, survivors_of_nodup hdistinct, keptVolumes, List.filter_filter]
  simp only [Bool.and_self]

theorem select_claims (snapshot : Snapshot) (identifiers : List String) :
    ∃ selection, (View.ofSnapshot snapshot).selectClaims identifiers = .ok selection ∧
      selection.items = keptClaims snapshot identifiers ∧
      selection.failure? =
        missing? (namesClaim snapshot.nodes) identifiers (keptClaims snapshot identifiers) := by
  refine ⟨_, selectClaims_ofSnapshot snapshot identifiers, ?_, ?_⟩
  · rw [items_select, keptClaims]
  · rw [failure?_select, keptClaims, missing?_filter_isWanted]

/-! ## What is shown of a volume -/

def volumeSummary (snapshot : Snapshot) (volume : Volume) : VolumeSummary :=
  ⟨volume, (stateIn snapshot.nodes volume).text⟩

/-- The pods that use one of the claims, by namespace and name, each once. -/
def podNames (pods : List Pod) (claims : List Claim) : List String :=
  (claims.flatMap fun claim =>
    (podsMounting pods claim.namespaceName claim.name).map fun pod =>
      pod.namespaceName ++ "/" ++ pod.name).eraseDups

def volumeDescription (snapshot : Snapshot) (volume : Volume) : VolumeDescription :=
  let bound := claimsBoundTo snapshot.claims volume.name
  { volume
    state := (stateIn snapshot.nodes volume).text
    replication := topologyIn snapshot.nodes volume
    claims := bound.map (·.qualifiedName)
    pods := podNames snapshot.pods bound }

theorem summarizeVolume_ofSnapshot (snapshot : Snapshot) (volume : Volume) :
    summarizeVolume (.ofSnapshot snapshot) volume =
      unlessDefect (attachmentDefect? snapshot.nodes volume) (volumeSummary snapshot volume) := by
  unfold summarizeVolume View.ofSnapshot
  rw [attachedState_ofList, unlessDefect_bind_pure]
  rfl

theorem describeVolume_ofSnapshot (snapshot : Snapshot) (volume : Volume) :
    describeVolume (.ofSnapshot snapshot) volume =
      unlessDefect (volumeDefect? snapshot.nodes volume) (volumeDescription snapshot volume) := by
  unfold describeVolume podsUsing View.ofSnapshot
  simp only [attachedState_ofList, replicationInfo_ofList, boundTo_ofList, referencingIn_ofList]
  unfold volumeDefect? volumeDescription podNames
  cases attachmentDefect? snapshot.nodes volume with
  | some failure => rfl
  | none => cases placementDefect? snapshot.nodes volume <;> rfl

/-! ## What is shown of a claim -/

def claimSummary (snapshot : Snapshot) (claim : CorrelatedClaim) : ClaimSummary :=
  ⟨claim, (stateIn snapshot.nodes claim.volume).text⟩

/-- The containers that mount a claim of this name, in the pods of its namespace. -/
def containersMounting (pods : List Pod) (namespaceName claim : String) : List String :=
  (podsMounting pods namespaceName claim).flatMap fun pod =>
    (pod.containers.filter fun container => container.claims.contains claim).map fun container =>
      pod.namespaceName ++ "/" ++ pod.name ++ ": " ++ container.name

def claimDescription (snapshot : Snapshot) (claim : CorrelatedClaim) : ClaimDescription where
  claim
  state := (stateIn snapshot.nodes claim.volume).text
  containers := containersMounting snapshot.pods claim.namespaceName claim.name

theorem summarizeClaim_ofSnapshot (snapshot : Snapshot) (claim : CorrelatedClaim) :
    summarizeClaim (.ofSnapshot snapshot) claim =
      unlessDefect (attachmentDefect? snapshot.nodes claim.volume)
        (claimSummary snapshot claim) := by
  unfold summarizeClaim View.ofSnapshot
  rw [attachedState_ofList, unlessDefect_bind_pure]
  rfl

/-- What is kept of several lists by where it comes from is found in the lists that are kept. -/
theorem filter_flatMap_of_origin {α β : Type} {list : α → List β} {keeps : β → Bool}
    (origin : α → Bool) (h : ∀ a, ∀ b ∈ list a, keeps b = origin a) (as : List α) :
    (as.flatMap list).filter keeps = (as.filter origin).flatMap list := by
  induction as with
  | nil => rfl
  | cons a as ih =>
      rw [List.flatMap_cons, List.filter_append, ih, List.filter_cons]
      cases horigin : origin a with
      | false =>
          have hnone : (list a).filter keeps = [] :=
            List.filter_eq_nil_iff.mpr fun b hb => by simp [h a b hb, horigin]
          rw [hnone, List.nil_append, if_neg Bool.false_ne_true]
      | true =>
          have hall : (list a).filter keeps = list a :=
            List.filter_eq_self.mpr fun b hb => by rw [h a b hb, horigin]
          rw [hall, if_pos rfl, List.flatMap_cons]

/-- Containers are found in the pods of every namespace and then kept if their pod is in the right
one, which is the same as looking into the right pods. -/
theorem containersOf_ofSnapshot (snapshot : Snapshot) (claim : CorrelatedClaim) :
    containersOf (.ofSnapshot snapshot) claim =
      containersMounting snapshot.pods claim.namespaceName claim.name := by
  unfold containersOf View.ofSnapshot containersMounting
  simp only [containersMounting_ofList]
  rw [filter_flatMap_of_origin fun pod => claim.namespaceName = "" ||
      pod.namespaceName == claim.namespaceName, List.filter_filter, List.map_flatMap]
  · simp only [mountingContainers, List.map_map, Function.comp_def, podsMounting, Bool.and_comm,
      Pod.qualifiedName, qualified]
  · intro pod mounting hmem
    obtain ⟨container, -, rfl⟩ := List.mem_map.mp hmem
    rfl

theorem describeClaim_ofSnapshot (snapshot : Snapshot) (claim : CorrelatedClaim) :
    describeClaim (.ofSnapshot snapshot) claim =
      unlessDefect (attachmentDefect? snapshot.nodes claim.volume)
        (claimDescription snapshot claim) := by
  unfold describeClaim
  rw [containersOf_ofSnapshot, View.ofSnapshot, attachedState_ofList, unlessDefect_bind_pure]
  rfl

/-! ## Answers -/

/-- Whether a command fails with a defect if there is one, and otherwise has a text that shows what
it should and a failure to report beside it. -/
structure Outcome (answer : Except Failure Output) (defect? unmatched : Option Failure)
    (shows : String → Prop) : Prop where
  error : ∀ failure, defect? = some failure → answer = .error failure
  output : defect? = none →
    ∃ output, answer = .ok output ∧ output.unmatched = unmatched ∧ shows output.text

theorem outcome_unlessDefect {defect? : Option Failure} {output : Output} {shows : String → Prop}
    (h : shows output.text) :
    Outcome (unlessDefect defect? output) defect? output.unmatched shows := by
  constructor
  · rintro failure rfl
    rfl
  · rintro rfl
    exact ⟨output, rfl, rfl, h⟩

section

variable (snapshot : Snapshot) (invocation : Invocation)

theorem getNodes_ofSnapshot :
    getNodes (.ofSnapshot snapshot) invocation =
      let kept := keptNodes snapshot invocation.identifiers
      .ok {
        text := render invocation.format (nodesDatum kept)
          fun wide => nodesText kept wide invocation.showLabels
        unmatched := missing? namesNode invocation.identifiers kept } := by
  obtain ⟨hitems, hfailure⟩ := select_nodes snapshot invocation.identifiers
  unfold getNodes
  simp only [hitems, hfailure]

theorem getVolumes_ofSnapshot :
    getVolumes (.ofSnapshot snapshot) invocation =
      let kept := keptVolumes snapshot invocation.identifiers
      let summaries := kept.map (volumeSummary snapshot)
      unlessDefect (kept.findSome? (attachmentDefect? snapshot.nodes)) {
        text := render invocation.format (volumesDatum summaries) fun _ => volumesText summaries
        unmatched := missing? namesVolume invocation.identifiers kept } := by
  obtain ⟨hitems, hfailure⟩ := select_volumes snapshot invocation.identifiers
  unfold getVolumes
  simp only [hitems, hfailure]
  rw [funext (summarizeVolume_ofSnapshot snapshot), mapM_unlessDefect, unlessDefect_bind_pure]

theorem describeVolumes_ofSnapshot :
    describeVolumes (.ofSnapshot snapshot) invocation =
      let kept := keptVolumes snapshot invocation.identifiers
      let descriptions := kept.map (volumeDescription snapshot)
      unlessDefect (kept.findSome? (volumeDefect? snapshot.nodes)) {
        text := render invocation.format (.list (descriptions.map (·.toDatum)))
          fun _ => blocks (descriptions.map (·.text))
        unmatched := missing? namesVolume invocation.identifiers kept } := by
  obtain ⟨hitems, hfailure⟩ := select_volumes snapshot invocation.identifiers
  unfold describeVolumes
  simp only [hitems, hfailure]
  rw [funext (describeVolume_ofSnapshot snapshot), mapM_unlessDefect, unlessDefect_bind_pure]

theorem getClaims_ofSnapshot :
    getClaims (.ofSnapshot snapshot) invocation =
      let kept := keptClaims snapshot invocation.identifiers
      let summaries := kept.map (claimSummary snapshot)
      unlessDefect (kept.findSome? fun claim => attachmentDefect? snapshot.nodes claim.volume) {
        text := render invocation.format (claimsDatum summaries) fun _ => claimsText summaries
        unmatched := missing? (namesClaim snapshot.nodes) invocation.identifiers kept } := by
  obtain ⟨selection, hselect, hitems, hfailure⟩ := select_claims snapshot invocation.identifiers
  unfold getClaims
  rw [hselect]
  change (do let claims ← selection.items.mapM (summarizeClaim (.ofSnapshot snapshot)); _) = _
  simp only [hitems, hfailure]
  rw [funext (summarizeClaim_ofSnapshot snapshot), mapM_unlessDefect, unlessDefect_bind_pure]

theorem describeClaims_ofSnapshot :
    describeClaims (.ofSnapshot snapshot) invocation =
      let kept := keptClaims snapshot invocation.identifiers
      let descriptions := kept.map (claimDescription snapshot)
      unlessDefect (kept.findSome? fun claim => attachmentDefect? snapshot.nodes claim.volume) {
        text := render invocation.format (.list (descriptions.map (·.toDatum)))
          fun _ => blocks (descriptions.map (·.text))
        unmatched := missing? (namesClaim snapshot.nodes) invocation.identifiers kept } := by
  obtain ⟨selection, hselect, hitems, hfailure⟩ := select_claims snapshot invocation.identifiers
  unfold describeClaims
  rw [hselect]
  change (do let claims ← selection.items.mapM (describeClaim (.ofSnapshot snapshot)); _) = _
  simp only [hitems, hfailure]
  rw [funext (describeClaim_ofSnapshot snapshot), mapM_unlessDefect, unlessDefect_bind_pure]

end

end StorageSurvey.Commands
