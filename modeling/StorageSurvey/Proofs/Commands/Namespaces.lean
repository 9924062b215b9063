import StorageSurvey.Proofs.Commands.Outcomes

/-!
# Claims within one namespace

A snapshot can be cut down to the pods and claims of one namespace before its claims are joined.
Joining looks for the pods of a claim in the claim's own namespace only, so that cutting first and
joining then is joining first and keeping the claims of the namespace then: a claim of the namespace
has the same volume, pods and containers either way.

It follows that nothing of another namespace shows in the rows of this one.
-/

namespace StorageSurvey.Commands

open StorageSurvey.Inventory StorageSurvey.Report StorageSurvey.Survey

variable {ns : String}

/-- Whether two snapshots have the same nodes and volumes, and the same pods and claims in a
namespace. -/
structure SameIn (ns : String) (first second : Snapshot) : Prop where
  nodes : first.nodes = second.nodes
  volumes : first.volumes = second.volumes
  workloads : first.workloads.within (.only ns) = second.workloads.within (.only ns)

/-- Whether a claim is shown in the same way in two views: in the list of claims and in its
description, to which its containers belong. -/
structure SameRows (first second : View) (claim : CorrelatedClaim) : Prop where
  summary : summarizeClaim first claim = summarizeClaim second claim
  description : describeClaim first claim = describeClaim second claim
  containers : containersOf first claim = containersOf second claim

namespace SameRows

variable {first second third : View} {claim : CorrelatedClaim}

theorem symm (h : SameRows first second claim) : SameRows second first claim :=
  ⟨h.summary.symm, h.description.symm, h.containers.symm⟩

theorem trans (h : SameRows first second claim) (h' : SameRows second third claim) :
    SameRows first third claim :=
  ⟨h.summary.trans h'.summary, h.description.trans h'.description,
    h.containers.trans h'.containers⟩

end SameRows

/-! ## Cutting first -/

theorem pods_within (snapshot : Snapshot) :
    (snapshot.within (.only ns)).pods =
      snapshot.pods.filter fun pod => pod.namespaceName == ns :=
  List.filter_congr fun _ _ => Bool.beq_comm

theorem claims_within (snapshot : Snapshot) :
    (snapshot.within (.only ns)).claims =
      snapshot.claims.filter fun claim => claim.namespaceName == ns :=
  List.filter_congr fun _ _ => Bool.beq_comm

/-- The pods that mount a claim of a namespace are all in it. -/
theorem podsMounting_within (hns : ns ≠ "") (snapshot : Snapshot) (claim : String) :
    podsMounting (snapshot.within (.only ns)).pods ns claim =
      podsMounting snapshot.pods ns claim := by
  rw [pods_within, podsMounting, podsMounting, List.filter_filter]
  refine List.filter_congr fun pod _ => ?_
  rw [decide_eq_false hns, Bool.false_or, Bool.and_assoc, Bool.and_self]

theorem joined?_within (hns : ns ≠ "") (snapshot : Snapshot) {claim : Claim}
    (hclaim : claim.namespaceName = ns) :
    joined? (snapshot.within (.only ns)) claim = joined? snapshot claim := by
  unfold joined?
  rw [hclaim, podsMounting_within hns]
  rfl

theorem namespaceName_of_joined? {snapshot : Snapshot} {claim : Claim} {joined : CorrelatedClaim}
    (h : joined? snapshot claim = some joined) : joined.namespaceName = claim.namespaceName := by
  obtain ⟨volume, -, rfl⟩ := Option.map_eq_some_iff.mp h
  rfl

/-- Joining the claims that are left is keeping those claims that are joined. -/
theorem joinedClaims_within (hns : ns ≠ "") (snapshot : Snapshot) :
    joinedClaims (snapshot.within (.only ns)) =
      (joinedClaims snapshot).filter fun claim => claim.namespaceName == ns := by
  rw [joinedClaims, joinedClaims, claims_within, List.filter_filterMap, List.filterMap_filter]
  refine List.filterMap_congr fun claim _ => ?_
  have hcut : claim.namespaceName = ns →
      joined? (snapshot.within (.only ns)) claim = joined? snapshot claim :=
    joined?_within hns snapshot
  cases hjoined : joined? snapshot claim with
  | none => simpa [hjoined] using hcut
  | some joined =>
      rw [hjoined] at hcut
      rw [Option.filter_some, namespaceName_of_joined? hjoined]
      by_cases hclaim : claim.namespaceName = ns
      · rw [if_pos (beq_iff_eq.mpr hclaim), if_pos (beq_iff_eq.mpr hclaim), hcut hclaim]
      · rw [if_neg (mt beq_iff_eq.mp hclaim), if_neg (mt beq_iff_eq.mp hclaim)]

/-- What names a claim does not depend on pods and claims, so the wanted claims of a namespace are
those of all wanted claims that are in it. -/
theorem keptClaims_within (hns : ns ≠ "") (snapshot : Snapshot) (identifiers : List String) :
    keptClaims (snapshot.within (.only ns)) identifiers =
      (keptClaims snapshot identifiers).filter fun claim => claim.namespaceName == ns := by
  rw [keptClaims, joinedClaims_within hns, keptClaims, List.filter_filter, List.filter_filter]
  exact List.filter_congr fun claim _ => Bool.and_comm _ _

theorem sameRows_within (hns : ns ≠ "") (snapshot : Snapshot) {claim : CorrelatedClaim}
    (hclaim : claim.namespaceName = ns) :
    SameRows (.ofSnapshot (snapshot.within (.only ns))) (.ofSnapshot snapshot) claim := by
  have hcontainers : containersMounting (snapshot.within (.only ns)).pods claim.namespaceName
      claim.name = containersMounting snapshot.pods claim.namespaceName claim.name := by
    rw [hclaim, containersMounting, containersMounting, podsMounting_within hns]
  refine ⟨rfl, ?_, ?_⟩
  · rw [describeClaim_ofSnapshot, describeClaim_ofSnapshot, claimDescription, hcontainers]
    rfl
  · rw [containersOf_ofSnapshot, containersOf_ofSnapshot, hcontainers]

/-! ## Two snapshots that are the same in a namespace -/

namespace SameIn

variable {first second : Snapshot}

/-- Cut down to the namespace, they differ at most in when they were captured. -/
theorem within_eq (h : SameIn ns first second) :
    second.within (.only ns) =
      { first.within (.only ns) with capturedAt := second.capturedAt } := by
  rw [Snapshot.within, Snapshot.within, ← h.workloads, ← h.nodes, ← h.volumes]

theorem keptClaims_eq (h : SameIn ns first second) (hns : ns ≠ "") (identifiers : List String) :
    (keptClaims second identifiers).filter (fun claim => claim.namespaceName == ns) =
      (keptClaims first identifiers).filter fun claim => claim.namespaceName == ns := by
  rw [← keptClaims_within hns, ← keptClaims_within hns, h.within_eq]
  rfl

theorem sameRows (h : SameIn ns first second) (hns : ns ≠ "") {claim : CorrelatedClaim}
    (hclaim : claim.namespaceName = ns) :
    SameRows (.ofSnapshot second) (.ofSnapshot first) claim := by
  have hcut : SameRows (.ofSnapshot (second.within (.only ns)))
      (.ofSnapshot (first.within (.only ns))) claim := by
    rw [h.within_eq]
    exact ⟨rfl, rfl, rfl⟩
  exact (sameRows_within hns second hclaim).symm.trans
    (hcut.trans (sameRows_within hns first hclaim))

end SameIn

/-- The claims that are selected within a namespace are those of all selected claims that are in it,
and they are shown in the same way.  So two snapshots that are the same in the namespace show the
same claims of it in the same way, and answer alike once they are cut down to it. -/
theorem claims_within_namespace (hns : ns ≠ "") (snapshot : Snapshot)
    (identifiers : List String) :
    ∃ all inside : Selection CorrelatedClaim,
      (View.ofSnapshot snapshot).selectClaims identifiers = .ok all ∧
      (View.ofSnapshot (snapshot.within (.only ns))).selectClaims identifiers = .ok inside ∧
      inside.items = all.items.filter (fun claim => claim.namespaceName == ns) ∧
      (∀ claim ∈ inside.items,
        SameRows (.ofSnapshot (snapshot.within (.only ns))) (.ofSnapshot snapshot) claim) ∧
      ∀ other, SameIn ns snapshot other →
        (∃ others : Selection CorrelatedClaim,
          (View.ofSnapshot other).selectClaims identifiers = .ok others ∧
          others.items.filter (fun claim => claim.namespaceName == ns) = inside.items ∧
          ∀ claim ∈ inside.items, SameRows (.ofSnapshot other) (.ofSnapshot snapshot) claim) ∧
        ∀ format showLabels,
          getClaims (.ofSnapshot (other.within (.only ns))) ⟨format, identifiers, showLabels⟩ =
            getClaims (.ofSnapshot (snapshot.within (.only ns)))
              ⟨format, identifiers, showLabels⟩ ∧
          describeClaims (.ofSnapshot (other.within (.only ns)))
              ⟨format, identifiers, showLabels⟩ =
            describeClaims (.ofSnapshot (snapshot.within (.only ns)))
              ⟨format, identifiers, showLabels⟩ := by
  obtain ⟨all, hall, hallItems, -⟩ := select_claims snapshot identifiers
  obtain ⟨inside, hinside, hinsideItems, -⟩ :=
    select_claims (snapshot.within (.only ns)) identifiers
  have hitems : inside.items = all.items.filter fun claim => claim.namespaceName == ns := by
    rw [hinsideItems, hallItems, keptClaims_within hns]
  have hnamespace : ∀ claim ∈ inside.items, claim.namespaceName = ns := by
    intro claim hmem
    rw [hitems] at hmem
    exact beq_iff_eq.mp (List.mem_filter.mp hmem).2
  refine ⟨all, inside, hall, hinside, hitems, ?_, fun other hsame => ⟨?_, ?_⟩⟩
  · intro claim hmem
    exact sameRows_within hns snapshot (hnamespace claim hmem)
  · obtain ⟨others, hothers, hothersItems, -⟩ := select_claims other identifiers
    refine ⟨others, hothers, ?_, fun claim hmem => hsame.sameRows hns (hnamespace claim hmem)⟩
    rw [hothersItems, hsame.keptClaims_eq hns, hitems, hallItems]
  · intro format showLabels
    rw [hsame.within_eq]
    exact ⟨rfl, rfl⟩

/-- A claim and a pod that mounts it, under the same names in two namespaces, and a claim without a
namespace. -/
def twoNamespaces : Snapshot where
  capturedAt := none
  nodes := []
  volumes := [{ Volume.blank with id := "1", name := "v" }]
  pods := [⟨"a", "p", [⟨"data", "c"⟩], [⟨"app", ["c"]⟩]⟩,
    ⟨"b", "p", [⟨"data", "c"⟩], [⟨"app", ["c"]⟩]⟩]
  claims := [⟨"b", "c", "v"⟩, ⟨"", "c", "v"⟩, ⟨"a", "c", "v"⟩]

/-- The same without what is outside of the first namespace. -/
def oneNamespace : Snapshot :=
  { twoNamespaces with
    pods := [⟨"a", "p", [⟨"data", "c"⟩], [⟨"app", ["c"]⟩]⟩]
    claims := [⟨"a", "c", "v"⟩] }

theorem twoNamespaces_within :
    ∃ (all inside others : Selection CorrelatedClaim) (claim : CorrelatedClaim),
      (View.ofSnapshot twoNamespaces).selectClaims ["c"] = .ok all ∧
      (View.ofSnapshot (twoNamespaces.within (.only "a"))).selectClaims ["c"] = .ok inside ∧
      (View.ofSnapshot oneNamespace).selectClaims ["c"] = .ok others ∧
      inside.items = [claim] ∧
      all.items.filter (fun claim => claim.namespaceName == "a") = [claim] ∧
      others.items.filter (fun claim => claim.namespaceName == "a") = [claim] ∧
      claim.podNames = ["a/p"] ∧
      SameRows (.ofSnapshot oneNamespace) (.ofSnapshot twoNamespaces) claim ∧
      containersOf (.ofSnapshot twoNamespaces) claim = ["a/p: app"] := by
  have hsame : SameIn "a" twoNamespaces oneNamespace := ⟨rfl, rfl, by decide⟩
  have hns : "a" ≠ "" := by decide
  obtain ⟨all, inside, hall, hinside, hitems, -, hothers⟩ :=
    claims_within_namespace hns twoNamespaces ["c"]
  obtain ⟨⟨others, hselect, hsameItems, hrows⟩, -⟩ := hothers oneNamespace hsame
  have hclaim : inside.items =
      [⟨"c", "a", { Volume.blank with id := "1", name := "v" }, ["a/p"]⟩] := by
    rw [selectClaims_ofSnapshot] at hinside
    cases hinside
    decide
  rw [hclaim] at hitems hsameItems hrows
  exact ⟨all, inside, others, _, hall, hinside, hselect, hclaim, hitems.symm, hsameItems, rfl,
    hrows _ List.mem_cons_self, by decide⟩

end StorageSurvey.Commands
