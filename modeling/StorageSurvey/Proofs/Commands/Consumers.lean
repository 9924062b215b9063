import StorageSurvey.Proofs.Commands.Outcomes

/-!
# The claims and pods under a volume

The description of a volume looks up the claims that are bound to its name, and the pods that use
those.  The list of claims starts from the claims and joins each with the volume that its volume
name stands for.  Both see the same, as long as the name of the volume stands for the volume
itself: a claim is bound to that name exactly if it is joined with that volume, since no two
volumes that survive have one identifier.
-/

namespace StorageSurvey.Commands

open StorageSurvey.Inventory StorageSurvey.Report StorageSurvey.Survey

/-- A claim with its pods, joined with a volume. -/
def joinedWith (snapshot : Snapshot) (volume : Volume) (claim : Claim) : CorrelatedClaim where
  name := claim.name
  namespaceName := claim.namespaceName
  volume
  podNames := (podsMounting snapshot.pods claim.namespaceName claim.name).map (·.qualifiedName)

theorem joined?_eq_map (snapshot : Snapshot) (claim : Claim) :
    joined? snapshot claim =
      (volumeNamed? snapshot.volumes claim.volumeName).map (joinedWith snapshot · claim) := rfl

/-! ## The volume that a name stands for -/

theorem of_volumeNamed? {volumes : List Volume} {name : String} {volume : Volume}
    (h : volumeNamed? volumes name = some volume) :
    volume ∈ survivors Volume.id volumes ∧ volume.name = name := by
  unfold volumeNamed? at h
  split at h
  · cases h
  · exact mem_of_lastWith? h

/-- Names that stand for volumes with one identifier are the same name. -/
theorem eq_of_volumeNamed?_id {volumes : List Volume} {name other : String}
    {volume found : Volume} (h : volumeNamed? volumes name = some volume)
    (hother : volumeNamed? volumes other = some found) (hid : found.id = volume.id) :
    other = name := by
  obtain ⟨hmem, hname⟩ := of_volumeNamed? h
  obtain ⟨hmem', hname'⟩ := of_volumeNamed? hother
  have hsame : found = volume :=
    List.inj_on_of_nodup_map (nodup_survivors volumes) hmem' hmem hid
  rw [← hname, ← hname', hsame]

/-! ## Joined with a volume, and bound to its name -/

/-- The claims that are joined with a volume are those that are bound to its name. -/
theorem filter_joinedClaims {snapshot : Snapshot} {name : String} {volume : Volume}
    (h : volumeNamed? snapshot.volumes name = some volume) :
    (joinedClaims snapshot).filter (fun claim => claim.volume.id == volume.id) =
      (claimsBoundTo snapshot.claims name).map (joinedWith snapshot volume) := by
  rw [joinedClaims, claimsBoundTo, List.filter_filterMap, ← List.filterMap_eq_map,
    List.filterMap_filter]
  refine List.filterMap_congr fun claim _ => ?_
  rw [joined?_eq_map]
  by_cases hbound : claim.volumeName = name
  · rw [hbound, h, if_pos (beq_self_eq_true name)]
    exact Option.filter_some_pos (beq_self_eq_true volume.id)
  · rw [if_neg (by simpa using hbound)]
    cases hfound : volumeNamed? snapshot.volumes claim.volumeName with
    | none => rfl
    | some found =>
        have hid : found.id ≠ volume.id := fun hid => hbound (eq_of_volumeNamed?_id h hfound hid)
        exact Option.filter_some_neg (beq_false_of_ne hid)

/-- The pods under a volume are those of the claims that are joined with it. -/
theorem podNames_eq_flatMap (snapshot : Snapshot) (volume : Volume) (claims : List Claim) :
    podNames snapshot.pods claims =
      ((claims.map (joinedWith snapshot volume)).flatMap (·.podNames)).eraseDups := by
  rw [podNames, List.flatMap_map]
  rfl

/-- A volume that its own name stands for is described with the claims that are joined with it, in
the order of the snapshot, and with their pods, each once. -/
theorem describeVolume_eq_correlated {snapshot : Snapshot} {volume found : Volume}
    {description : VolumeDescription}
    (hnamed : (View.ofSnapshot snapshot).volumes.byName? volume.name = some found)
    (hid : found.id = volume.id)
    (hdescribe : describeVolume (.ofSnapshot snapshot) volume = .ok description) :
    ∃ correlated backed : List CorrelatedClaim,
      correlate (View.ofSnapshot snapshot).volumes (View.ofSnapshot snapshot).pods
          (managedClaims (View.ofSnapshot snapshot).volumes
            (View.ofSnapshot snapshot).claims.all) = .ok correlated ∧
      backed = correlated.filter (fun claim => claim.volume.id == volume.id) ∧
      (∀ claim ∈ backed, claim.volume = found) ∧
      description.claims = backed.map (·.qualifiedName) ∧
      description.claims.Sublist (snapshot.claims.map (·.qualifiedName)) ∧
      description.pods = (backed.flatMap (·.podNames)).eraseDups ∧
      description.pods.Nodup ∧
      ∀ pod, pod ∈ description.pods ↔ ∃ claim ∈ backed, pod ∈ claim.podNames := by
  have hvolume : volumeNamed? snapshot.volumes volume.name = some found :=
    (byName?_ofList snapshot.volumes volume.name).symm.trans hnamed
  rw [describeVolume_ofSnapshot] at hdescribe
  obtain ⟨-, rfl⟩ := unlessDefect_eq_ok_iff.mp hdescribe
  -- the joined claims of this volume, said by the claims that are bound to its name
  let bound := claimsBoundTo snapshot.claims volume.name
  have hpods : podNames snapshot.pods bound =
      ((bound.map (joinedWith snapshot found)).flatMap (·.podNames)).eraseDups :=
    podNames_eq_flatMap snapshot found bound
  refine ⟨joinedClaims snapshot, bound.map (joinedWith snapshot found),
    correlate_managedClaims snapshot snapshot.claims, ?_, ?_, ?_, ?_, hpods, ?_, ?_⟩
  · rw [← hid, filter_joinedClaims hvolume]
  · intro claim hmem
    obtain ⟨bound, -, rfl⟩ := List.mem_map.mp hmem
    rfl
  · rw [List.map_map]
    rfl
  · exact List.filter_sublist.map _
  · exact nodup_eraseDups _
  · intro pod
    change pod ∈ podNames snapshot.pods bound ↔ _
    rw [hpods, List.mem_eraseDups, List.mem_flatMap]

/-- One of these claims has no namespace, one stands there twice, and they share pods. -/
def sharedPods : Snapshot where
  capturedAt := none
  nodes := []
  volumes := [{ Volume.blank with id := "1", name := "v" },
    { Volume.blank with id := "2", name := "w" }]
  pods := [⟨"a", "p", [⟨"data", "c"⟩], []⟩, ⟨"b", "p", [⟨"data", "c"⟩, ⟨"logs", "d"⟩], []⟩]
  claims := [⟨"a", "c", "v"⟩, ⟨"b", "d", "w"⟩, ⟨"", "c", "v"⟩, ⟨"a", "c", "v"⟩]

theorem sharedPods_described :
    ∃ (description : VolumeDescription) (correlated backed : List CorrelatedClaim),
      describeVolume (.ofSnapshot sharedPods) { Volume.blank with id := "1", name := "v" } =
        .ok description ∧
      correlate (View.ofSnapshot sharedPods).volumes (View.ofSnapshot sharedPods).pods
          (managedClaims (View.ofSnapshot sharedPods).volumes sharedPods.claims) =
        .ok correlated ∧
      backed = correlated.filter (fun claim => claim.volume.id == "1") ∧
      backed.map (·.qualifiedName) = ["a/c", "/c", "a/c"] ∧
      description.claims = backed.map (·.qualifiedName) ∧
      description.pods = (backed.flatMap (·.podNames)).eraseDups ∧
      description.pods = ["a/p", "b/p"] := by
  have hdescribe := describeVolume_ofSnapshot sharedPods
    { Volume.blank with id := "1", name := "v" }
  have hnamed : (View.ofSnapshot sharedPods).volumes.byName? "v" =
      some { Volume.blank with id := "1", name := "v" } := by decide
  obtain ⟨correlated, backed, hcorrelate, hbacked, -, hclaims, -, hpods, -, -⟩ :=
    describeVolume_eq_correlated hnamed rfl hdescribe
  refine ⟨_, correlated, backed, hdescribe, hcorrelate, hbacked, ?_, hclaims, hpods, by decide⟩
  rw [← hclaims]
  decide

end StorageSurvey.Commands
