import StorageSurvey.Proofs.Orchestrator.Mounts
import StorageSurvey.Proofs.Survey.Containers

/-!
# Pods declare what they mount

Pods come from texts, where anything may be written, or are made: recorded from the objects of the
orchestrator, or put together claim by claim.  Both ways of making a pod let a container mount only
what the pod declares.  A recorded container has the claims behind its mounts, and those back
volumes of the pod.  A claim that is put in is declared before it is mounted, and nothing that is
declared is taken back.  So the containers that mount a claim are found in full among pods that
were made.
-/

namespace StorageSurvey.Orchestrator

open StorageSurvey.Inventory StorageSurvey.Survey

/-- The pods that are made, not read. -/
inductive Made : Pod → Prop
  | recorded (object : PodObject) : Made object.toPod
  | empty (namespaceName name : String) : Made (.empty namespaceName name)
  | withClaim {pod : Pod} (container claim : String) : Made pod →
      Made (pod.withClaim container claim)

/-! ## Recorded pods -/

/-- A claim behind a mount backs a volume that is recorded. -/
theorem Backs.exists_record {volumes : List PodVolume} {mount claim : String}
    (h : Backs volumes mount claim) :
    ∃ volume ∈ PodVolume.records volumes, volume.claimName = claim := by
  obtain ⟨before, after, rfl, -⟩ := h
  have hmem : (⟨mount, some claim⟩ : PodVolume) ∈ before ++ ⟨mount, some claim⟩ :: after :=
    List.mem_append_right _ List.mem_cons_self
  exact ⟨⟨mount, claim⟩, List.mem_filterMap.mpr ⟨_, hmem, rfl⟩, rfl⟩

theorem declaresMounts_toPod (object : PodObject) : DeclaresMounts object.toPod := by
  intro container hcontainer claim hclaim
  obtain ⟨source, -, rfl⟩ := List.mem_map.mp hcontainer
  obtain ⟨mount, -, hbacks⟩ := ((gathered_foldl _ _).mem_iff claim).mp hclaim
  exact Pod.references_iff.mpr hbacks.exists_record

/-! ## Pods that are put together -/

theorem declaresMounts_empty (namespaceName name : String) :
    DeclaresMounts (.empty namespaceName name) := by
  intro container hcontainer
  cases hcontainer

/-- What a container mounts after one more claim was mounted is this claim, or some container
mounted it before. -/
theorem mem_claims_mount {containers : List Container} {name claim mounted : String}
    {container : Container} (hcontainer : container ∈ Container.mount name claim containers)
    (hmounted : mounted ∈ container.claims) :
    mounted = claim ∨ ∃ old ∈ containers, mounted ∈ old.claims := by
  induction containers with
  | nil =>
      rw [Container.mount, List.mem_singleton] at hcontainer
      rw [hcontainer, List.mem_singleton] at hmounted
      exact .inl hmounted
  | cons first rest ih =>
      unfold Container.mount at hcontainer
      by_cases hname : first.name = name
      · rw [if_pos hname, List.mem_cons] at hcontainer
        rcases hcontainer with rfl | hrest
        · rcases List.mem_append.mp hmounted with hold | hnew
          · exact .inr ⟨first, List.mem_cons_self, hold⟩
          · exact .inl (List.mem_singleton.mp hnew)
        · exact .inr ⟨container, List.mem_cons_of_mem _ hrest, hmounted⟩
      · rw [if_neg hname, List.mem_cons] at hcontainer
        rcases hcontainer with rfl | hrest
        · exact .inr ⟨container, List.mem_cons_self, hmounted⟩
        · rcases ih hrest with hnew | ⟨old, hold, hmem⟩
          · exact .inl hnew
          · exact .inr ⟨old, List.mem_cons_of_mem _ hold, hmem⟩

/-- What is declared stays declared. -/
theorem references_withClaim_of_references {pod : Pod} {declared : String}
    (h : pod.references declared = true) (container claim : String) :
    (pod.withClaim container claim).references declared = true := by
  obtain ⟨volume, hvolume, hclaim⟩ := Pod.references_iff.mp h
  refine Pod.references_iff.mpr ⟨volume, ?_, hclaim⟩
  unfold Pod.withClaim
  split
  · exact hvolume
  · exact List.mem_append_left _ hvolume

/-- The claim that is mounted is declared. -/
theorem references_withClaim (pod : Pod) (container claim : String) :
    (pod.withClaim container claim).references claim = true := by
  by_cases h : pod.references claim = true
  · exact references_withClaim_of_references h container claim
  · refine Pod.references_iff.mpr ⟨⟨claim ++ "-vol", claim⟩, ?_, rfl⟩
    unfold Pod.withClaim
    rw [if_neg h]
    exact List.mem_append_right _ (List.mem_singleton_self _)

theorem declaresMounts_withClaim {pod : Pod} (h : DeclaresMounts pod) (container claim : String) :
    DeclaresMounts (pod.withClaim container claim) := by
  intro changed hchanged mounted hmounted
  rcases mem_claims_mount hchanged hmounted with rfl | ⟨old, hold, hmem⟩
  · exact references_withClaim pod container mounted
  · exact references_withClaim_of_references (h old hold mounted hmem) container claim

/-! ## All pods that are made -/

theorem Made.declaresMounts {pod : Pod} (h : Made pod) : DeclaresMounts pod := by
  induction h with
  | recorded object => exact declaresMounts_toPod object
  | empty namespaceName name => exact declaresMounts_empty namespaceName name
  | withClaim container claim _ ih => exact declaresMounts_withClaim ih container claim

/-- Among pods that were made, the containers that mount a claim are found by looking at all
containers of all pods, and every claim that is mounted backs a volume of the pod. -/
theorem mounting_containers_found {pods : List Pod} (hmade : ∀ pod ∈ pods, Made pod) :
    (∀ claim, (Pods.ofList pods).containersMounting claim =
      pods.flatMap fun pod =>
        (pod.containers.filter fun container => container.claims.contains claim).map
          fun container => ⟨pod, container.name⟩) ∧
    ∀ pod ∈ pods, ∀ container ∈ pod.containers, ∀ claim ∈ container.claims,
      ∃ volume ∈ pod.claimVolumes, volume.claimName = claim := by
  have hdeclares : ∀ pod ∈ pods, DeclaresMounts pod := by
    intro pod hpod
    exact (hmade pod hpod).declaresMounts
  constructor
  · intro claim
    exact containersMounting_eq_flatMap hdeclares claim
  · intro pod hpod container hcontainer claim hclaim
    exact Pod.references_iff.mp (hdeclares pod hpod container hcontainer claim hclaim)

/-- A pod in which two volumes have one claim. -/
def sharedClaim : PodObject where
  metadata := ⟨some "ns", some "recorded"⟩
  spec := some {
    volumes := some [⟨"data", some "c"⟩, ⟨"copy", some "c"⟩, ⟨"scratch", none⟩]
    containers := [⟨"app", some ["scratch", "copy", "data"]⟩, ⟨"log", none⟩]
    initContainers := some [⟨"prepare", some ["data"]⟩] }

/-- A pod with a claim that is put in twice. -/
def claimTwice : Pod :=
  (((Pod.empty "ns" "built").withClaim "app" "c").withClaim "log" "d").withClaim "log" "c"

theorem sharedClaim_claimTwice_found :
    let pods := [sharedClaim.toPod, claimTwice]
    (∀ pod ∈ pods, Made pod) ∧
      (Pods.ofList pods).containersMounting "c" =
        [⟨sharedClaim.toPod, "app"⟩, ⟨sharedClaim.toPod, "prepare"⟩, ⟨claimTwice, "app"⟩,
          ⟨claimTwice, "log"⟩] ∧
      ∃ volume ∈ claimTwice.claimVolumes, volume.claimName = "d" := by
  intro pods
  have hmade : ∀ pod ∈ pods, Made pod := by
    intro pod hpod
    rcases List.mem_pair.mp hpod with rfl | rfl
    · exact .recorded sharedClaim
    · exact .withClaim "log" "c" (.withClaim "log" "d" (.withClaim "app" "c" (.empty "ns" "built")))
  obtain ⟨hfound, hdeclared⟩ := mounting_containers_found hmade
  refine ⟨hmade, ?_, ?_⟩
  · rw [hfound "c"]
    decide
  · exact hdeclared claimTwice (by simp [pods]) ⟨"log", ["d", "c"]⟩ (by decide) "d" (by decide)

end StorageSurvey.Orchestrator
