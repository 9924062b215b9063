import StorageSurvey.Proofs.Survey.Defects
import StorageSurvey.Proofs.Survey.Groups
import StorageSurvey.Survey.Correlation

/-!
# Claims joined in a batch

Claims are joined one after the other, and the first one whose volume is not known fails the batch.
So a batch succeeds exactly if every volume name in it is found, and then has one entry for each
claim, in the order of the claims.  Of a list of claims the managed ones are those that can be
joined, for they are told by the same search for the volume.
-/

namespace StorageSurvey.Survey

open StorageSurvey.Inventory

/-- Whether an entry is a claim with the volume that its volume name stands for, and with the
namespaces and names of the pods of its namespace that reference it, in their order; the empty
namespace stands for all. -/
structure JoinedAs (volumes : Volumes) (pods : List Pod) (claim : Claim) (entry : CorrelatedClaim) :
    Prop where
  name : entry.name = claim.name
  namespaceName : entry.namespaceName = claim.namespaceName
  volume : volumes.byName? claim.volumeName = some entry.volume
  podNames : entry.podNames =
    (pods.filter fun pod => pod.references claim.name &&
      (claim.namespaceName = "" || pod.namespaceName == claim.namespaceName)).map fun pod =>
        pod.namespaceName ++ "/" ++ pod.name

/-! ## One claim -/

section

variable (volumes : Volumes) (pods : Pods)

/-- The failure of a claim whose volume is not known. -/
def unresolved? (claim : Claim) : Option Failure :=
  if (volumes.byName? claim.volumeName).isSome then none
  else some (.claimVolumeNotFound claim.namespaceName claim.name claim.volumeName)

/-- The entry of a claim whose volume is known. -/
def entryOf (claim : Claim) : CorrelatedClaim where
  name := claim.name
  namespaceName := claim.namespaceName
  volume := (volumes.byName? claim.volumeName).getD .blank
  podNames := (pods.referencingIn claim.namespaceName claim.name).map (·.qualifiedName)

theorem correlateOne_eq (claim : Claim) :
    correlateOne volumes pods claim =
      unlessDefect (unresolved? volumes claim) (entryOf volumes pods claim) := by
  unfold correlateOne unresolved? entryOf
  cases volumes.byName? claim.volumeName <;> rfl

variable {volumes}

theorem unresolved?_eq_none_iff {claim : Claim} :
    unresolved? volumes claim = none ↔
      ∃ volume, volumes.byName? claim.volumeName = some volume := by
  rw [unresolved?, ← Option.isSome_iff_exists]
  cases (volumes.byName? claim.volumeName).isSome <;> simp

theorem unresolved?_eq_some_iff {claim : Claim} {failure : Failure} :
    unresolved? volumes claim = some failure ↔
      volumes.byName? claim.volumeName = none ∧
        failure = .claimVolumeNotFound claim.namespaceName claim.name claim.volumeName := by
  unfold unresolved?
  cases volumes.byName? claim.volumeName with
  | none => simp [eq_comm]
  | some volume => simp

end

/-- A claim has one entry at most, the one that is built from what its names stand for. -/
theorem joinedAs_iff {volumes : Volumes} {pods : List Pod} (claim : Claim)
    (entry : CorrelatedClaim) :
    JoinedAs volumes pods claim entry ↔
      unresolved? volumes claim = none ∧ entryOf volumes (.ofList pods) claim = entry := by
  rw [unresolved?_eq_none_iff, entryOf, referencingIn_ofList]
  constructor
  · rintro ⟨hname, hnamespace, hvolume, hpods⟩
    refine ⟨⟨entry.volume, hvolume⟩, ?_⟩
    rw [hvolume, ← hname, ← hnamespace]
    obtain ⟨name, namespaceName, volume, podNames⟩ := entry
    rw [CorrelatedClaim.mk.injEq]
    exact ⟨rfl, rfl, rfl, hnamespace ▸ hname ▸ hpods.symm⟩
  · rintro ⟨⟨volume, hvolume⟩, rfl⟩
    exact ⟨rfl, rfl, by rw [hvolume, Option.getD_some], rfl⟩

/-! ## A batch -/

theorem correlate_eq (volumes : Volumes) (pods : Pods) (claims : List Claim) :
    correlate volumes pods claims =
      unlessDefect (claims.findSome? (unresolved? volumes))
        (claims.map (entryOf volumes pods)) := by
  rw [correlate, funext (correlateOne_eq volumes pods), mapM_unlessDefect]

theorem correlate_eq_ok_iff {volumes : Volumes} {pods : List Pod} {claims : List Claim}
    {entries : List CorrelatedClaim} :
    correlate volumes (.ofList pods) claims = .ok entries ↔
      List.Forall₂ (JoinedAs volumes pods) claims entries := by
  rw [correlate_eq, unlessDefect_eq_ok_iff, List.findSome?_eq_none_iff,
    forall₂_iff_map joinedAs_iff]

/-- A batch fails with the first claim whose volume is not found. -/
theorem correlate_eq_error_iff {volumes : Volumes} {pods : Pods} {claims : List Claim}
    {failure : Failure} :
    correlate volumes pods claims = .error failure ↔
      ∃ before claim after, claims = before ++ claim :: after ∧
        (∀ earlier ∈ before, ∃ volume, volumes.byName? earlier.volumeName = some volume) ∧
        volumes.byName? claim.volumeName = none ∧
        failure = .claimVolumeNotFound claim.namespaceName claim.name claim.volumeName := by
  rw [correlate_eq, unlessDefect_eq_error_iff, List.findSome?_eq_some_iff]
  constructor
  · rintro ⟨before, claim, after, hsplit, hclaim, hbefore⟩
    obtain ⟨hvolume, hfailure⟩ := unresolved?_eq_some_iff.mp hclaim
    refine ⟨before, claim, after, hsplit, ?_, hvolume, hfailure⟩
    intro earlier hearlier
    exact unresolved?_eq_none_iff.mp (hbefore earlier hearlier)
  · rintro ⟨before, claim, after, hsplit, hbefore, hvolume, hfailure⟩
    refine ⟨before, claim, after, hsplit, unresolved?_eq_some_iff.mpr ⟨hvolume, hfailure⟩, ?_⟩
    intro earlier hearlier
    exact unresolved?_eq_none_iff.mpr (hbefore earlier hearlier)

theorem exists_correlate_eq_ok_iff {volumes : Volumes} {pods : Pods} {claims : List Claim} :
    (∃ entries, correlate volumes pods claims = .ok entries) ↔
      ∀ claim ∈ claims, ∃ volume, volumes.byName? claim.volumeName = some volume := by
  simp only [correlate_eq, exists_unlessDefect_eq_ok_iff, List.findSome?_eq_none_iff,
    unresolved?_eq_none_iff]

/-! ## The managed claims -/

/-- The managed claims are those that can be joined. -/
theorem managedClaims_eq_filter (volumes : Volumes) (pods : Pods) (claims : List Claim) :
    managedClaims volumes claims =
      claims.filter fun claim => (correlateOne volumes pods claim).isOk := by
  refine List.filter_congr fun claim _ => ?_
  rw [correlateOne]
  cases volumes.byName? claim.volumeName <;> rfl

/-- Joining the managed claims leaves out those that cannot be joined. -/
theorem correlate_managedClaims_eq (volumes : Volumes) (pods : Pods) (claims : List Claim) :
    correlate volumes pods (managedClaims volumes claims) =
      .ok (claims.filterMap fun claim => (correlateOne volumes pods claim).toOption) := by
  have hresolved : (managedClaims volumes claims).findSome? (unresolved? volumes) = none := by
    rw [List.findSome?_eq_none_iff]
    intro claim hclaim
    have hvolume := (List.mem_filter.mp hclaim).2
    exact unresolved?_eq_none_iff.mpr (Option.isSome_iff_exists.mp hvolume)
  rw [correlate_eq, hresolved]
  refine congrArg Except.ok ?_
  rw [managedClaims, ← List.filterMap_eq_map, List.filterMap_filter]
  refine List.filterMap_congr fun claim _ => ?_
  rw [correlateOne_eq, unresolved?]
  cases (volumes.byName? claim.volumeName).isSome <;> rfl

/-- A batch is joined if every volume name in it is found, with an entry for each claim; else it
fails with the first claim whose volume is not found.  The managed claims can always be joined, and
are all claims that can be. -/
theorem correlate_outcome (volumes : List Volume) (pods : List Pod) (claims : List Claim) :
    let known := Volumes.ofList volumes
    let index := Pods.ofList pods
    ((∃ entries, correlate known index claims = .ok entries) ↔
        ∀ claim ∈ claims, ∃ volume, known.byName? claim.volumeName = some volume) ∧
      (∀ entries, correlate known index claims = .ok entries ↔
        List.Forall₂ (JoinedAs known pods) claims entries) ∧
      (∀ failure, correlate known index claims = .error failure ↔
        ∃ before claim after, claims = before ++ claim :: after ∧
          (∀ earlier ∈ before, ∃ volume, known.byName? earlier.volumeName = some volume) ∧
          known.byName? claim.volumeName = none ∧
          failure = .claimVolumeNotFound claim.namespaceName claim.name claim.volumeName) ∧
      managedClaims known claims =
        claims.filter (fun claim => (correlateOne known index claim).isOk) ∧
      correlate known index (managedClaims known claims) =
        .ok (claims.filterMap fun claim => (correlateOne known index claim).toOption) := by
  intro known index
  refine ⟨exists_correlate_eq_ok_iff, ?_, ?_, ?_, ?_⟩
  · intro entries
    exact correlate_eq_ok_iff
  · intro failure
    exact correlate_eq_error_iff
  · exact managedClaims_eq_filter known index claims
  · exact correlate_managedClaims_eq known index claims

/-- Pods under one name in two namespaces, two of them equal, and a pod of another claim. -/
def namesakePods : List Pod :=
  [⟨"ns", "p", [⟨"data", "c"⟩], []⟩, ⟨"other", "p", [⟨"data", "c"⟩], []⟩,
    ⟨"ns", "q", [⟨"data", "d"⟩], []⟩, ⟨"ns", "p", [⟨"data", "c"⟩], []⟩]

/-- The name of two volumes stands for the last of them, and a claim without a namespace for that
of every namespace; the first of two claims without a volume is reported. -/
theorem namesakePods_correlated :
    let volumes := [{ Volume.blank with id := "1", name := "v" },
      { Volume.blank with id := "2", name := "v" }]
    let claims : List Claim := [⟨"ns", "c", "v"⟩, ⟨"", "c", "v"⟩, ⟨"ns", "e", "v"⟩]
    correlate (.ofList volumes) (.ofList namesakePods) claims = .ok [
        ⟨"c", "ns", volumes[1], ["ns/p", "ns/p"]⟩,
        ⟨"c", "", volumes[1], ["ns/p", "other/p", "ns/p"]⟩,
        ⟨"e", "ns", volumes[1], []⟩] ∧
      correlate (.ofList volumes) (.ofList namesakePods)
          (claims ++ [⟨"ns", "d", "w"⟩, ⟨"ns", "c", "v"⟩, ⟨"ns", "c", "x"⟩]) =
        .error (.claimVolumeNotFound "ns" "d" "w") := by
  intro volumes claims
  obtain ⟨-, hjoined, -⟩ := correlate_outcome volumes namesakePods claims
  obtain ⟨-, -, hfails, -⟩ := correlate_outcome volumes namesakePods
    (claims ++ [⟨"ns", "d", "w"⟩, ⟨"ns", "c", "v"⟩, ⟨"ns", "c", "x"⟩])
  refine ⟨(hjoined _).mpr ?_, (hfails _).mpr ?_⟩
  · exact .cons ⟨rfl, rfl, by decide, by decide⟩ <| .cons ⟨rfl, rfl, by decide, by decide⟩ <|
      .cons ⟨rfl, rfl, by decide, by decide⟩ .nil
  · refine ⟨claims, ⟨"ns", "d", "w"⟩, _, rfl, ?_, by decide, rfl⟩
    intro earlier hearlier
    refine ⟨volumes[1], ?_⟩
    have hall : ∀ claim ∈ claims, claim.volumeName = "v" := by decide
    rw [hall earlier hearlier]
    decide

end StorageSurvey.Survey
