import Mathlib.Data.List.Forall2
import Mathlib.Data.List.Induction
import Mathlib.Data.List.Nodup
import StorageSurvey.Orchestrator.Objects

/-!
# The claims that a container mounts

A container mounts volumes by name, and of the volumes with this name the first one that a claim
backs decides which claim is mounted.  The claims are gathered mount by mount, and a claim that is
there already is not added again, whichever volume it comes from.  So what is gathered has each
claim once, has exactly the claims behind the mounts, and has them in the order of their first
mounts.

`Gathered` says this of the mounts passed so far.  It holds before the first mount
(`gathered_nil`), one more mount keeps it (`Gathered.addMounted`), and so it holds after the last
one (`gathered_foldl`).  With it the record of a pod is described by its specification.
-/

namespace StorageSurvey.Orchestrator

open StorageSurvey.Inventory

variable {volumes : List PodVolume} {mount claim first second : String}
  {mounts claims : List String}

/-! ## The claim behind a mount -/

/-- Whether a claim is behind a mount: of the volumes with the mount's name, it backs the first one
that a claim backs at all. -/
def Backs (volumes : List PodVolume) (mount claim : String) : Prop :=
  ∃ before after, volumes = before ++ ⟨mount, some claim⟩ :: after ∧
    ∀ volume ∈ before, volume.name = mount → volume.claimName = none

/-- The first volume decides, unless it has another name or no claim. -/
theorem backs_cons_iff {volume : PodVolume} :
    Backs (volume :: volumes) mount claim ↔
      volume = ⟨mount, some claim⟩ ∨
        (volume.name = mount → volume.claimName = none) ∧ Backs volumes mount claim := by
  constructor
  · rintro ⟨before, after, hsplit, hbefore⟩
    cases before with
    | nil =>
        injection hsplit with hfirst
        exact .inl hfirst
    | cons head before =>
        injection hsplit with hfirst hrest
        subst hfirst
        rw [List.forall_mem_cons] at hbefore
        exact .inr ⟨hbefore.1, before, after, hrest, hbefore.2⟩
  · rintro (rfl | ⟨hfirst, before, after, rfl, hbefore⟩)
    · exact ⟨[], volumes, rfl, by simp⟩
    · exact ⟨volume :: before, after, rfl, List.forall_mem_cons.mpr ⟨hfirst, hbefore⟩⟩

theorem claimBehind?_records_cons (volume : PodVolume) (volumes : List PodVolume)
    (mount : String) :
    PodSpec.claimBehind? (PodVolume.records (volume :: volumes)) mount =
      if volume.name = mount then
        volume.claimName.or (PodSpec.claimBehind? (PodVolume.records volumes) mount)
      else PodSpec.claimBehind? (PodVolume.records volumes) mount := by
  obtain ⟨name, claimName⟩ := volume
  cases claimName with
  | none => simp [PodSpec.claimBehind?, PodVolume.records]
  | some claim =>
      by_cases hname : name = mount
      · simp [PodSpec.claimBehind?, PodVolume.records, hname]
      · simp [PodSpec.claimBehind?, PodVolume.records, hname]

theorem claimBehind?_eq_some_iff :
    PodSpec.claimBehind? (PodVolume.records volumes) mount = some claim ↔
      Backs volumes mount claim := by
  induction volumes with
  | nil => simp [PodSpec.claimBehind?, PodVolume.records, Backs]
  | cons volume volumes ih =>
      rw [backs_cons_iff, ← ih, claimBehind?_records_cons]
      obtain ⟨name, claimName⟩ := volume
      by_cases hname : name = mount
      · cases claimName <;> simp [hname]
      · simp [hname]

theorem claimBehind?_eq_none_iff :
    PodSpec.claimBehind? (PodVolume.records volumes) mount = none ↔
      ∀ claim, ¬ Backs volumes mount claim := by
  simp only [← claimBehind?_eq_some_iff, Option.eq_none_iff_forall_ne_some, ne_eq]

/-- There is at most one claim behind a mount. -/
theorem Backs.unique (hfirst : Backs volumes mount first) (hsecond : Backs volumes mount second) :
    first = second := by
  have h := claimBehind?_eq_some_iff.mpr hfirst
  rw [claimBehind?_eq_some_iff.mpr hsecond] at h
  exact (Option.some.inj h).symm

/-- Whether a mount has the name of a volume that a claim backs. -/
def namesClaimVolume (volumes : List PodVolume) (mount : String) : Bool :=
  volumes.any fun volume => volume.name == mount && volume.claimName.isSome

theorem isSome_claimBehind? (volumes : List PodVolume) (mount : String) :
    (PodSpec.claimBehind? (PodVolume.records volumes) mount).isSome =
      namesClaimVolume volumes mount := by
  induction volumes with
  | nil => rfl
  | cons volume volumes ih =>
      rw [namesClaimVolume, List.any_cons, ← namesClaimVolume, ← ih, claimBehind?_records_cons]
      by_cases hname : volume.name = mount
      · simp [hname]
      · simp [hname]

/-! ## The claims behind several mounts -/

/-- Whether some mount of the first claim stands before every mount of the second. -/
def MountedBefore (volumes : List PodVolume) (mounts : List String) (first second : String) :
    Prop :=
  ∃ (place : Nat) (mount : String), mounts[place]? = some mount ∧ Backs volumes mount first ∧
    ∀ (other : Nat) (later : String),
      mounts[other]? = some later → Backs volumes later second → place < other

/-- Whether a list holds the claims behind some mounts: each once, in the order of their first
mounts. -/
structure Gathered (volumes : List PodVolume) (mounts claims : List String) : Prop where
  nodup : claims.Nodup
  mem_iff : ∀ claim, claim ∈ claims ↔ ∃ mount ∈ mounts, Backs volumes mount claim
  ordered : claims.Pairwise (MountedBefore volumes mounts)

/-- A mount after the others leaves the claims in their order. -/
theorem MountedBefore.concat (h : MountedBefore volumes mounts first second) (mount : String) :
    MountedBefore volumes (mounts ++ [mount]) first second := by
  obtain ⟨place, earlier, hplace, hbacks, hbefore⟩ := h
  have hlt : place < mounts.length := (List.getElem?_eq_some_iff.mp hplace).1
  refine ⟨place, earlier, ?_, hbacks, ?_⟩
  · rwa [List.getElem?_append_left hlt]
  · intro other later hother hlater
    by_cases hinside : other < mounts.length
    · rw [List.getElem?_append_left hinside] at hother
      exact hbefore other later hother hlater
    · omega

/-- A claim that is mounted comes before one that is not. -/
theorem mountedBefore_of_unmounted (hmem : mount ∈ mounts) (hfirst : Backs volumes mount first)
    (hsecond : ∀ mount ∈ mounts, ¬ Backs volumes mount second) :
    MountedBefore volumes mounts first second := by
  obtain ⟨place, hplace⟩ := List.mem_iff_getElem?.mp hmem
  refine ⟨place, mount, hplace, hfirst, ?_⟩
  intro other later hother hlater
  exact absurd hlater (hsecond later (List.mem_of_getElem? hother))

theorem gathered_nil : Gathered volumes [] [] where
  nodup := .nil
  mem_iff := by simp
  ordered := .nil

namespace Gathered

/-- A mount without a claim, or with one that is there already, adds nothing. -/
theorem keep (h : Gathered volumes mounts claims)
    (hold : ∀ claim, Backs volumes mount claim → claim ∈ claims) :
    Gathered volumes (mounts ++ [mount]) claims where
  nodup := h.nodup
  mem_iff claim := by
    constructor
    · intro hmem
      obtain ⟨earlier, hearlier, hbacks⟩ := (h.mem_iff claim).mp hmem
      exact ⟨earlier, List.mem_append_left _ hearlier, hbacks⟩
    · rintro ⟨other, hother, hbacks⟩
      rcases List.mem_append.mp hother with hearlier | hlast
      · exact (h.mem_iff claim).mpr ⟨other, hearlier, hbacks⟩
      · rw [List.mem_singleton.mp hlast] at hbacks
        exact hold claim hbacks
  ordered := h.ordered.imp fun hbefore => hbefore.concat mount

/-- A mount with a claim that is not there yet puts it after the others. -/
theorem take (h : Gathered volumes mounts claims) (hbacks : Backs volumes mount claim)
    (hfresh : claim ∉ claims) : Gathered volumes (mounts ++ [mount]) (claims ++ [claim]) where
  nodup := by
    rw [← List.concat_eq_append]
    exact h.nodup.concat hfresh
  mem_iff other := by
    rw [List.mem_append, h.mem_iff, List.mem_singleton]
    constructor
    · rintro (⟨earlier, hearlier, hother⟩ | rfl)
      · exact ⟨earlier, List.mem_append_left _ hearlier, hother⟩
      · exact ⟨mount, List.mem_append_right _ (List.mem_singleton_self mount), hbacks⟩
    · rintro ⟨earlier, hearlier, hother⟩
      rcases List.mem_append.mp hearlier with hearlier | hlast
      · exact .inl ⟨earlier, hearlier, hother⟩
      · rw [List.mem_singleton.mp hlast] at hother
        exact .inr (hother.unique hbacks)
  ordered := by
    have hunmounted : ∀ mount ∈ mounts, ¬ Backs volumes mount claim := by
      intro mount hmem hclaim
      exact hfresh ((h.mem_iff claim).mpr ⟨mount, hmem, hclaim⟩)
    refine List.pairwise_append.mpr ⟨?_, List.pairwise_singleton _ _, ?_⟩
    · exact h.ordered.imp fun hbefore => hbefore.concat mount
    · intro old hold new hnew
      rw [List.mem_singleton.mp hnew]
      obtain ⟨earlier, hearlier, hold⟩ := (h.mem_iff old).mp hold
      exact (mountedBefore_of_unmounted hearlier hold hunmounted).concat mount

/-- One more mount is gathered. -/
theorem addMounted (h : Gathered volumes mounts claims) (mount : String) :
    Gathered volumes (mounts ++ [mount])
      (PodSpec.addMounted (PodVolume.records volumes) claims mount) := by
  unfold PodSpec.addMounted
  cases hbehind : PodSpec.claimBehind? (PodVolume.records volumes) mount with
  | none =>
      apply h.keep
      intro claim hclaim
      exact absurd hclaim (claimBehind?_eq_none_iff.mp hbehind claim)
  | some claim =>
      have hbacks : Backs volumes mount claim := claimBehind?_eq_some_iff.mp hbehind
      by_cases hmem : claim ∈ claims
      · simp only [List.contains_iff_mem, hmem, if_true]
        apply h.keep
        intro other hother
        rwa [hother.unique hbacks]
      · simp only [List.contains_iff_mem, hmem, if_false]
        exact h.take hbacks hmem

end Gathered

/-- After all mounts the claims behind them are gathered. -/
theorem gathered_foldl (volumes : List PodVolume) (mounts : List String) :
    Gathered volumes mounts
      (mounts.foldl (PodSpec.addMounted (PodVolume.records volumes)) []) := by
  induction mounts using List.reverseRecOn with
  | nil => exact gathered_nil
  | append_singleton mounts mount ih =>
      rw [List.foldl_append]
      exact ih.addMounted mount

/-- Mounts of other volumes can be left out. -/
theorem foldl_filter_namesClaimVolume (volumes : List PodVolume) (mounts claims : List String) :
    (mounts.filter (namesClaimVolume volumes)).foldl
        (PodSpec.addMounted (PodVolume.records volumes)) claims =
      mounts.foldl (PodSpec.addMounted (PodVolume.records volumes)) claims := by
  induction mounts generalizing claims with
  | nil => rfl
  | cons mount mounts ih =>
      rw [List.filter_cons, List.foldl_cons, ← isSome_claimBehind?]
      cases hbehind : PodSpec.claimBehind? (PodVolume.records volumes) mount with
      | none =>
          have hsame : PodSpec.addMounted (PodVolume.records volumes) claims mount =
              claims := by rw [PodSpec.addMounted, hbehind]
          rw [hsame]
          exact ih claims
      | some claim => exact ih _

/-! ## The record of a pod -/

/-- Whether a container is recorded with its name and the claims that it mounts.  Its other mounts
make no difference. -/
structure Records (volumes : List PodVolume) (source : ContainerSpec) (container : Container) :
    Prop where
  name : container.name = source.name
  gathered : Gathered volumes (source.mounts.getD []) container.claims
  others : container =
    PodSpec.container (PodVolume.records volumes)
      { source with mounts := source.mounts.map (·.filter (namesClaimVolume volumes)) }

theorem records_container (volumes : List PodVolume) (source : ContainerSpec) :
    Records volumes source
      (PodSpec.container (PodVolume.records volumes) source) where
  name := rfl
  gathered := gathered_foldl volumes _
  others := by
    obtain ⟨name, mounts⟩ := source
    cases mounts with
    | none => rfl
    | some mounts =>
        unfold PodSpec.container
        rw [Option.map_some, Option.getD_some, Option.getD_some, foldl_filter_namesClaimVolume]

/-- The records of volumes that claims back are these volumes, in their order. -/
theorem map_records (volumes : List PodVolume) :
    (PodVolume.records volumes).map
        (fun volume => (⟨volume.name, some volume.claimName⟩ : PodVolume)) =
      volumes.filter (·.claimName.isSome) := by
  rw [PodVolume.records, List.map_filterMap, ← List.filterMap_eq_filter]
  refine List.filterMap_congr fun volume _ => ?_
  obtain ⟨name, claimName⟩ := volume
  cases claimName <;> rfl

/-- A pod is recorded with its namespace and name, the volumes that claims back, and all of its
containers with the claims that they mount. -/
theorem toPod_of_spec (metadata : Metadata) (spec : PodSpec) :
    let pod := PodObject.toPod ⟨metadata, some spec⟩
    let volumes := spec.volumes.getD []
    pod.namespaceName = metadata.namespaceName.getD "" ∧
      pod.name = metadata.name.getD "" ∧
      pod.claimVolumes.map (fun volume => (⟨volume.name, some volume.claimName⟩ : PodVolume)) =
        volumes.filter (·.claimName.isSome) ∧
      List.Forall₂ (Records volumes) (spec.containers ++ spec.initContainers.getD [])
        pod.containers := by
  intro pod volumes
  have hcontainers : pod.containers =
      (spec.containers ++ spec.initContainers.getD []).map
        (PodSpec.container (PodVolume.records volumes)) := rfl
  refine ⟨rfl, rfl, map_records volumes, ?_⟩
  rw [hcontainers, List.forall₂_map_right_iff, List.forall₂_same]
  intro source _
  exact records_container volumes source

/-- Of two volumes with one name the first one that a claim backs counts, and two volumes with one
claim are one claim. -/
example :
    let volumes : List PodVolume :=
      [⟨"data", none⟩, ⟨"data", some "a"⟩, ⟨"data", some "b"⟩, ⟨"copy", some "b"⟩,
        ⟨"other", some "a"⟩]
    (PodObject.toPod ⟨.blank, some ⟨some volumes,
      [⟨"app", some ["copy", "missing", "other", "data", "copy"]⟩, ⟨"log", none⟩],
      none⟩⟩).containers =
        [⟨"app", ["b", "a"]⟩, ⟨"log", []⟩] := by
  decide

end StorageSurvey.Orchestrator
