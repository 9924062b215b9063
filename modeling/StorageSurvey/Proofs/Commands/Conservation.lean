import Mathlib.Data.List.Perm.Basic
import StorageSurvey.Proofs.Commands.Outcomes

/-!
# Claims in the list of claims and under the volumes

The list of claims shows a claim once, if the name to which it is bound stands for a volume.  The
descriptions of the volumes show it under every volume of that name.  So both show the same claims
exactly if no claim is bound to a name that two volumes share, or to the empty name of a volume,
which stands for none.

How often a claim is shown under the volumes is a count of volumes, and never less than how often it
is listed.  Equally many claims are shown on both sides only if the two agree for every claim.
-/

namespace StorageSurvey.Commands

open StorageSurvey.Inventory StorageSurvey.Report StorageSurvey.Survey

/-! ## How often a claim is shown -/

/-- The number of volumes that have the name to which a claim is bound. -/
def boundVolumes (snapshot : Snapshot) (claim : Claim) : Nat :=
  (survivors Volume.id snapshot.volumes).countP fun volume => volume.name == claim.volumeName

/-- The number of times that a claim is listed: once, if it is joined with a volume. -/
def timesListed (snapshot : Snapshot) (claim : Claim) : Nat :=
  if (joined? snapshot claim).isSome then 1 else 0

/-- The number of volumes to which a claim can be bound: one by its name, none by the empty name. -/
def volumeLimit (claim : Claim) : Nat :=
  if claim.volumeName = "" then 0 else 1

/-- A claim is joined exactly if a volume has its volume name, which is not empty. -/
theorem isSome_joined?_iff (snapshot : Snapshot) (claim : Claim) :
    (joined? snapshot claim).isSome = true ↔
      claim.volumeName ≠ "" ∧ 0 < boundVolumes snapshot claim := by
  unfold joined? volumeNamed? boundVolumes
  rw [Option.isSome_map]
  by_cases hempty : claim.volumeName = ""
  · simp [hempty]
  · rw [if_neg hempty, Option.isSome_iff_ne_none, Ne, lastWith?_eq_none_iff, not_not,
      List.countP_pos_iff, List.mem_map]
    simp only [beq_iff_eq, ne_eq, hempty, not_false_eq_true, true_and]

theorem timesListed_eq_min (snapshot : Snapshot) (claim : Claim) :
    timesListed snapshot claim = min (boundVolumes snapshot claim) (volumeLimit claim) := by
  have hjoined := isSome_joined?_iff snapshot claim
  unfold timesListed volumeLimit
  by_cases hempty : claim.volumeName = ""
  · rw [if_neg fun h => (hjoined.mp h).1 hempty, if_pos hempty, Nat.min_zero]
  · rw [if_neg hempty]
    by_cases hbound : 0 < boundVolumes snapshot claim
    · rw [if_pos (hjoined.mpr ⟨hempty, hbound⟩), Nat.min_eq_right hbound]
    · rw [if_neg fun h => hbound (hjoined.mp h).2, Nat.eq_zero_of_not_pos hbound, Nat.zero_min]

/-! ## The claims that are shown -/

/-- The names of claims, each as often as `times` says. -/
def repeated (times : Claim → Nat) (claims : List Claim) : List String :=
  claims.flatMap fun claim => List.replicate (times claim) claim.qualifiedName

theorem length_repeated_cons (times : Claim → Nat) (claim : Claim) (claims : List Claim) :
    (repeated times (claim :: claims)).length = times claim + (repeated times claims).length := by
  rw [repeated, List.flatMap_cons, List.length_append, List.length_replicate, ← repeated]

theorem length_repeated_le {less more : Claim → Nat} {claims : List Claim}
    (hle : ∀ claim ∈ claims, less claim ≤ more claim) :
    (repeated less claims).length ≤ (repeated more claims).length := by
  induction claims with
  | nil => exact Nat.le_refl _
  | cons claim claims ih =>
      obtain ⟨hclaim, hclaims⟩ := List.forall_mem_cons.mp hle
      rw [length_repeated_cons, length_repeated_cons]
      exact Nat.add_le_add hclaim (ih hclaims)

theorem flatMap_ite_singleton {α β : Type} (p : α → Bool) (b : β) (as : List α) :
    (as.flatMap fun a => if p a then [b] else []) = List.replicate (as.countP p) b := by
  induction as with
  | nil => rfl
  | cons a as ih =>
      rw [List.flatMap_cons, List.countP_cons, ih]
      cases p a with
      | false => rfl
      | true => rw [if_pos rfl, if_pos rfl, List.replicate_succ, List.singleton_append]

/-- Under the volumes, each claim is shown once for each volume that has its volume name. -/
theorem perm_repeated_described (volumes : List Volume) (claims : List Claim) :
    (volumes.flatMap fun volume =>
        (claimsBoundTo claims volume.name).map (·.qualifiedName)).Perm
      (repeated (fun claim => volumes.countP fun volume => volume.name == claim.volumeName)
        claims) := by
  unfold claimsBoundTo repeated
  induction claims with
  | nil => simp
  | cons claim claims ih =>
      -- what is shown under each volume begins with this claim, if it is bound to the volume
      have hfirst : ∀ volume : Volume,
          (((claim :: claims).filter fun other => other.volumeName == volume.name).map
              (·.qualifiedName)) =
            (if volume.name == claim.volumeName then [claim.qualifiedName] else []) ++
              (claims.filter fun other => other.volumeName == volume.name).map
                (·.qualifiedName) := by
        intro volume
        by_cases hname : volume.name = claim.volumeName
        · simp [hname]
        · simp [hname, Ne.symm hname]
      rw [List.flatMap_cons, ← flatMap_ite_singleton, funext hfirst]
      exact (List.flatMap_append_perm volumes _ _).symm.trans (ih.append_left _)

/-- In the list of claims, each claim is shown once, if it is joined with a volume. -/
theorem map_joinedClaims (snapshot : Snapshot) :
    (joinedClaims snapshot).map (·.qualifiedName) =
      repeated (timesListed snapshot) snapshot.claims := by
  unfold joinedClaims repeated timesListed
  induction snapshot.claims with
  | nil => rfl
  | cons claim claims ih =>
      rw [List.filterMap_cons, List.flatMap_cons, ← ih]
      cases hjoined : joined? snapshot claim with
      | none => rfl
      | some joined =>
          obtain ⟨volume, -, rfl⟩ := Option.map_eq_some_iff.mp hjoined
          rfl

/-- If names are repeated equally often in all, though each of them no less often on one side, they
are repeated equally often each. -/
theorem eq_of_length_repeated {less more : Claim → Nat} {claims : List Claim}
    (hle : ∀ claim ∈ claims, less claim ≤ more claim)
    (hlength : (repeated more claims).length = (repeated less claims).length) :
    ∀ claim ∈ claims, less claim = more claim := by
  induction claims with
  | nil => exact List.forall_mem_nil _
  | cons claim claims ih =>
      obtain ⟨hclaim, hclaims⟩ := List.forall_mem_cons.mp hle
      have hrest := length_repeated_le hclaims
      rw [length_repeated_cons, length_repeated_cons] at hlength
      have heq : less claim = more claim := by omega
      have hequal : (repeated more claims).length = (repeated less claims).length := by omega
      exact List.forall_mem_cons.mpr ⟨heq, ih hclaims hequal⟩

/-- The volumes show the same claims as the list exactly if no claim is bound to more volumes than
it can be. -/
theorem perm_described_listed_iff (snapshot : Snapshot) :
    ((survivors Volume.id snapshot.volumes).flatMap fun volume =>
        (claimsBoundTo snapshot.claims volume.name).map (·.qualifiedName)).Perm
      ((joinedClaims snapshot).map (·.qualifiedName)) ↔
      ∀ claim ∈ snapshot.claims, boundVolumes snapshot claim ≤ volumeLimit claim := by
  have hdescribed := perm_repeated_described (survivors Volume.id snapshot.volumes) snapshot.claims
  change (_ : List String).Perm (repeated (boundVolumes snapshot) snapshot.claims) at hdescribed
  rw [map_joinedClaims]
  constructor
  · intro hperm claim hmem
    have hle : ∀ claim ∈ snapshot.claims,
        timesListed snapshot claim ≤ boundVolumes snapshot claim := by
      intro claim _
      rw [timesListed_eq_min]
      exact Nat.min_le_left _ _
    have heq := eq_of_length_repeated hle (hdescribed.symm.trans hperm).length_eq claim hmem
    rw [timesListed_eq_min] at heq
    exact heq ▸ Nat.min_le_right _ _
  · intro hlimit
    have htimes : repeated (timesListed snapshot) snapshot.claims =
        repeated (boundVolumes snapshot) snapshot.claims := by
      refine List.flatMap_congr fun claim hmem => ?_
      rw [timesListed_eq_min, Nat.min_eq_left (hlimit claim hmem)]
    rw [htimes]
    exact hdescribed

/-! ## The two commands -/

/-- The claims under all volumes are the listed ones exactly if no claim is bound to a name that two
volumes share, or to the empty name of a volume. -/
theorem claims_conserved_iff {snapshot : Snapshot} {format : OutputFormat} {showLabels : Bool}
    {described listed : Output}
    (hdescribe : describeVolumes (.ofSnapshot snapshot) ⟨format, [], showLabels⟩ = .ok described)
    (hget : getClaims (.ofSnapshot snapshot) ⟨format, [], showLabels⟩ = .ok listed) :
    ∃ (descriptions : List VolumeDescription) (summaries : List ClaimSummary),
      described.text = render format (.list (descriptions.map VolumeDescription.toDatum))
        (fun _ => blocks (descriptions.map VolumeDescription.text)) ∧
      listed.text = render format (claimsDatum summaries) (fun _ => claimsText summaries) ∧
      descriptions.map VolumeDescription.volume = survivors Volume.id snapshot.volumes ∧
      summaries.map ClaimSummary.claim = joinedClaims snapshot ∧
      ((descriptions.flatMap VolumeDescription.claims).Perm
          (summaries.map (·.claim.qualifiedName)) ↔
        ∀ claim ∈ snapshot.claims, boundVolumes snapshot claim ≤ volumeLimit claim) := by
  rw [describeVolumes_ofSnapshot] at hdescribe
  rw [getClaims_ofSnapshot] at hget
  simp only [keptVolumes_nil, keptClaims_nil] at hdescribe hget
  obtain ⟨-, rfl⟩ := unlessDefect_eq_ok_iff.mp hdescribe
  obtain ⟨-, rfl⟩ := unlessDefect_eq_ok_iff.mp hget
  refine ⟨_, _, rfl, rfl, ?_, ?_, ?_⟩
  · rw [List.map_map]
    exact List.map_id _
  · rw [List.map_map]
    exact List.map_id _
  · rw [List.flatMap_map, List.map_map]
    exact perm_described_listed_iff snapshot

/-- Two volumes of one name, and a claim that is bound to it. -/
def sharedName : Snapshot where
  capturedAt := none
  nodes := []
  volumes := [{ Volume.blank with id := "1", name := "v" },
    { Volume.blank with id := "2", name := "v" }]
  pods := []
  claims := [⟨"default", "c", "v"⟩]

theorem sharedName_not_conserved :
    ∃ (described listed : Output) (descriptions : List VolumeDescription)
        (summaries : List ClaimSummary),
      describeVolumes (.ofSnapshot sharedName) ⟨.json, [], false⟩ = .ok described ∧
      getClaims (.ofSnapshot sharedName) ⟨.json, [], false⟩ = .ok listed ∧
      described.text = render .json (.list (descriptions.map VolumeDescription.toDatum))
        (fun _ => blocks (descriptions.map VolumeDescription.text)) ∧
      listed.text = render .json (claimsDatum summaries) (fun _ => claimsText summaries) ∧
      ¬ (descriptions.flatMap VolumeDescription.claims).Perm
        (summaries.map (·.claim.qualifiedName)) := by
  have hdescribe := describeVolumes_ofSnapshot sharedName ⟨.json, [], false⟩
  have hget := getClaims_ofSnapshot sharedName ⟨.json, [], false⟩
  obtain ⟨descriptions, summaries, htexts, hlist, -, -, hconserved⟩ :=
    claims_conserved_iff hdescribe hget
  refine ⟨_, _, descriptions, summaries, hdescribe, hget, htexts, hlist, fun hperm => ?_⟩
  exact absurd (hconserved.mp hperm) (by decide)

end StorageSurvey.Commands
