import StorageSurvey.Proofs.Survey.Batches
import StorageSurvey.Proofs.Survey.LastRecords
import StorageSurvey.Proofs.Survey.Selections
import StorageSurvey.Survey.View

/-!
# Claims joined with volumes and pods

What a view finds can be found by going through the lists of its snapshot: the volume that a claim
stands for, the claims with their volumes and pods, and what is named by an identifier.  A claim is
joined with its volume exactly if that volume is found, so that joining the claims of the cluster's
own volumes never fails.
-/

namespace StorageSurvey.Survey

open StorageSurvey.Inventory

/-! ## The volume behind a claim -/

/-- The volume that a name stands for: the last one that has it among those that survive.  No
volume is named by the empty text. -/
def volumeNamed? (volumes : List Volume) (name : String) : Option Volume :=
  if name = "" then none else lastWith? Volume.name (survivors Volume.id volumes) name

theorem byName?_ofList (volumes : List Volume) (name : String) :
    (Volumes.ofList volumes).byName? name = volumeNamed? volumes name := by
  rw [Volumes.byName?, Volumes.ofList, Catalog.findIn?_positions, Catalog.records_ofList,
    volumeNamed?]

theorem all_ofList_volumes (volumes : List Volume) :
    (Volumes.ofList volumes).all = survivors Volume.id volumes :=
  Catalog.records_ofList volumes

/-- A claim with its volume and its pods, if its volume is known. -/
def joined? (snapshot : Snapshot) (claim : Claim) : Option CorrelatedClaim :=
  (volumeNamed? snapshot.volumes claim.volumeName).map fun volume =>
    { name := claim.name
      namespaceName := claim.namespaceName
      volume
      podNames := (podsMounting snapshot.pods claim.namespaceName claim.name).map fun pod =>
        pod.namespaceName ++ "/" ++ pod.name }

/-- The claims of the cluster's own volumes, in their order. -/
def joinedClaims (snapshot : Snapshot) : List CorrelatedClaim :=
  snapshot.claims.filterMap (joined? snapshot)

theorem toOption_correlateOne_ofList (snapshot : Snapshot) (claim : Claim) :
    (correlateOne (.ofList snapshot.volumes) (.ofList snapshot.pods) claim).toOption =
      joined? snapshot claim := by
  rw [correlateOne, joined?, byName?_ofList, referencingIn_ofList]
  cases volumeNamed? snapshot.volumes claim.volumeName <;> rfl

/-- Every claim that is managed is joined. -/
theorem correlate_managedClaims (snapshot : Snapshot) (claims : List Claim) :
    correlate (.ofList snapshot.volumes) (.ofList snapshot.pods)
        (managedClaims (.ofList snapshot.volumes) claims) =
      .ok (claims.filterMap (joined? snapshot)) := by
  rw [correlate_managedClaims_eq, funext (toOption_correlateOne_ofList snapshot)]

/-! ## What resources are named by -/

/-- The host on which a volume is attached, if there is such a host. -/
def hostOf? (nodes : List Node) (volume : Volume) : Option String :=
  if volume.attachedOn = "" then none
  else (lastWith? Node.id nodes volume.attachedOn).map Node.hostname

/-- Whether an identifier is the name of a claim, the name or the identifier of its volume, or the
name of the host on which its volume is attached. -/
def namesClaim (nodes : List Node) (claim : CorrelatedClaim) (identifier : String) : Bool :=
  identifier ≠ "" &&
    (claim.name == identifier || claim.volume.name == identifier ||
      claim.volume.id == identifier || hostOf? nodes claim.volume == some identifier)

/-- Whether an identifier is the identifier or the name of a volume. -/
def namesVolume (volume : Volume) (identifier : String) : Bool :=
  identifier ≠ "" && (volume.id == identifier || volume.name == identifier)

/-- Whether an identifier is the identifier, the host name, the address or the scheduler name of a
node. -/
def namesNode (node : Node) (identifier : String) : Bool :=
  identifier ≠ "" &&
    (node.id == identifier || node.hostname == identifier || node.managementIp == identifier ||
      node.schedulerName == identifier)

theorem matches_eq (field : KeyField) (value identifier : String) :
    LookupKey.matches ⟨field, value⟩ identifier = (identifier ≠ "" && value == identifier) := by
  by_cases h : value = identifier
  · simp [LookupKey.matches, h]
  · simp [LookupKey.matches, beq_false_of_ne h]

theorem anyMatches_nodeKeys (node : Node) : anyMatches (nodeKeys node) = namesNode node := by
  funext identifier
  simp [anyMatches, nodeKeys, matches_eq, namesNode, Bool.and_or_distrib_left, Bool.or_assoc]

theorem anyMatches_volumeKeys (volume : Volume) :
    anyMatches (volumeKeys volume) = namesVolume volume := by
  funext identifier
  simp [anyMatches, volumeKeys, matches_eq, namesVolume, Bool.and_or_distrib_left]

theorem claimKeys_ofList (nodes : List Node) (claim : CorrelatedClaim) :
    claimKeys (.ofList nodes) claim =
      [⟨.claimName, claim.name⟩, ⟨.volumeName, claim.volume.name⟩,
        ⟨.volumeId, claim.volume.id⟩] ++
      (hostOf? nodes claim.volume).toList.map (⟨.attachedHost, ·⟩) := by
  unfold claimKeys Nodes.attachedNode hostOf?
  rw [byId?_ofList]
  by_cases hdetached : claim.volume.attachedOn = ""
  · simp [hdetached]
  · cases lastWith? Node.id nodes claim.volume.attachedOn <;> simp [hdetached]

theorem anyMatches_claimKeys (nodes : List Node) (claim : CorrelatedClaim) :
    anyMatches (claimKeys (.ofList nodes) claim) = namesClaim nodes claim := by
  funext identifier
  rw [anyMatches, claimKeys_ofList, namesClaim]
  cases hostOf? nodes claim.volume <;>
    simp [matches_eq, Bool.and_or_distrib_left, Bool.or_assoc]

/-! ## Selections in a view -/

theorem select_ofList_nodes (nodes : List Node) (identifiers : List String) :
    (Nodes.ofList nodes).select identifiers =
      select namesNode identifiers (survivors Node.id nodes) := by
  rw [Nodes.select, selectByKeys, all_ofList_nodes, funext anyMatches_nodeKeys]

theorem select_ofList_volumes (volumes : List Volume) (identifiers : List String) :
    (Volumes.ofList volumes).select identifiers =
      select namesVolume identifiers (survivors Volume.id volumes) := by
  rw [Volumes.select, selectByKeys, all_ofList_volumes, funext anyMatches_volumeKeys]

theorem selectClaims_ofSnapshot (snapshot : Snapshot) (identifiers : List String) :
    (View.ofSnapshot snapshot).selectClaims identifiers =
      .ok (select (namesClaim snapshot.nodes) identifiers (joinedClaims snapshot)) := by
  have hcorrelate := correlate_managedClaims snapshot snapshot.claims
  unfold View.selectClaims selectClaims selectByKeys
  rw [← funext (anyMatches_claimKeys snapshot.nodes)]
  change (do
    let correlated ← correlate (.ofList snapshot.volumes) (.ofList snapshot.pods)
      (managedClaims (.ofList snapshot.volumes) snapshot.claims)
    _) = _
  rw [hcorrelate]
  rfl

end StorageSurvey.Survey
