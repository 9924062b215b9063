import StorageSurvey.Proofs.Survey.Groups

/-!
# The containers that mount a claim

Containers are looked for in the pods that reference the claim.  They are all there are, if every
pod declares what its containers mount.  A pod that comes from a text need not do so, and then its
containers are not found.
-/

namespace StorageSurvey.Survey

open StorageSurvey.Inventory

/-- The containers of a pod that mount a claim, in the order of their declaration. -/
def mountingContainers (claim : String) (pod : Pod) : List PodContainer :=
  (pod.containers.filter fun container => container.claims.contains claim).map fun container =>
    ⟨pod, container.name⟩

/-- Whether every claim that a container of the pod mounts backs a volume of the pod. -/
def DeclaresMounts (pod : Pod) : Prop :=
  ∀ container ∈ pod.containers, ∀ claim ∈ container.claims, pod.references claim = true

theorem containersMounting_ofList (pods : List Pod) (claim : String) :
    (Pods.ofList pods).containersMounting claim =
      (pods.filter (·.references claim)).flatMap (mountingContainers claim) := by
  rw [Pods.containersMounting, referencing_ofList]
  rfl

/-- Without a volume for the claim there is no container that mounts it. -/
theorem DeclaresMounts.mountingContainers_eq_nil {pod : Pod} (h : DeclaresMounts pod)
    {claim : String} (hundeclared : pod.references claim ≠ true) :
    mountingContainers claim pod = [] := by
  have hnone : (pod.containers.filter fun container => container.claims.contains claim) = [] := by
    apply List.filter_eq_nil_iff.mpr
    intro container hcontainer hmounts
    exact hundeclared (h container hcontainer claim (List.contains_iff_mem.mp hmounts))
  rw [mountingContainers, hnone, List.map_nil]

/-- If all pods declare what they mount, looking into all of them finds nothing more. -/
theorem containersMounting_eq_flatMap {pods : List Pod} (h : ∀ pod ∈ pods, DeclaresMounts pod)
    (claim : String) :
    (Pods.ofList pods).containersMounting claim = pods.flatMap (mountingContainers claim) := by
  rw [containersMounting_ofList]
  induction pods with
  | nil => rfl
  | cons pod pods ih =>
      obtain ⟨hpod, hpods⟩ := List.forall_mem_cons.mp h
      rw [List.filter_cons, List.flatMap_cons, ← ih hpods]
      by_cases hreferences : pod.references claim = true
      · rw [if_pos hreferences, List.flatMap_cons]
      · rw [if_neg hreferences, hpod.mountingContainers_eq_nil hreferences, List.nil_append]

/-- A container whose claim its pod does not declare is not found. -/
example : (Pods.ofList [⟨"ns", "p", [], [⟨"app", ["c"]⟩]⟩]).containersMounting "c" = [] := by
  decide

end StorageSurvey.Survey
