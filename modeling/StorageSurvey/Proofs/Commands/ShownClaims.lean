import StorageSurvey.Proofs.Commands.ShownVolumes

/-!
# What the claim commands show

As with volumes, what is shown of a claim is spelled out: the entries of its value, the columns of
a list and the lines of a description, in which there is a line for every container that mounts the
claim.

Both commands fail with the same defect, the attachment of a volume.  A claim whose volume is not
known is no defect: it is not joined, and so it is not there to be kept.
-/

namespace StorageSurvey.Commands

open StorageSurvey.Document StorageSurvey.Inventory StorageSurvey.Report StorageSurvey.Survey

/-! ## Claims as they are shown -/

/-- The entries for a claim in data notation. -/
def claimEntries (claim : CorrelatedClaim) : List (String × Value) := [
  ("name", .text claim.name),
  ("namespace", .text claim.namespaceName),
  ("volume", .record (volumeEntries claim.volume)),
  ("podNames", .texts claim.podNames)]

/-- A claim in a list. -/
def listedClaim (nodes : List Node) (claim : CorrelatedClaim) : Value :=
  .record (claimEntries claim ++ [("state", .text (attachedText nodes claim.volume))])

/-- The columns of a list of claims. -/
def claimColumns (nodes : List Node) : List (Column CorrelatedClaim) := [
  ⟨"Name", fun claim => claim.name⟩,
  ⟨"Namespace", fun claim => claim.namespaceName⟩,
  ⟨"Volume", fun claim => claim.volume.name⟩,
  ⟨"State", fun claim => attachedText nodes claim.volume⟩,
  ⟨"Pods", fun claim => joined claim.podNames⟩]

/-- A claim in a list of descriptions, with these texts for its containers. -/
def describedClaim (nodes : List Node) (containers : List String) (claim : CorrelatedClaim) :
    Value :=
  .record (claimEntries claim ++ [
    ("state", .text (attachedText nodes claim.volume)),
    ("containers", .texts containers)])

/-- The block that describes a claim, with these texts for its containers. -/
def claimBlock (nodes : List Node) (containers : List String) (claim : CorrelatedClaim) : String :=
  "Name:           " ++ claim.name ++ "\n" ++
  "Namespace:      " ++ claim.namespaceName ++ "\n" ++
  "Volume:         " ++ claim.volume.name ++ " (" ++ claim.volume.id ++ ")" ++ "\n" ++
  "Size:           " ++ ByteSize.text claim.volume.size ++ "\n" ++
  "Status:         " ++ claim.volume.status.text ++ "\n" ++
  "State:          " ++ attachedText nodes claim.volume ++ "\n" ++
  "Pods:           " ++ joined claim.podNames ++ "\n" ++
  if containers = [] then "Containers:     <none>\n"
  else "Containers:\n" ++ String.join (containers.map fun container => "  " ++ container ++ "\n")

/-! ## What is written of a claim -/

theorem value_fields_claim (claim : CorrelatedClaim) :
    claim.fields.map (fun field => (field.1, field.2.value)) = claimEntries claim := by
  simp only [CorrelatedClaim.fields, claimEntries, Volume.toDatum, Datum.value_record,
    Datum.value_text, Datum.value_texts, value_fields_volume, List.map_cons, List.map_nil]

theorem value_claimSummary (snapshot : Snapshot) (claim : CorrelatedClaim) :
    (claimSummary snapshot claim).toDatum.value = listedClaim snapshot.nodes claim := by
  rw [ClaimSummary.toDatum, Datum.value_record, List.map_append, claimSummary, value_fields_claim,
    text_stateIn]
  rfl

theorem inStep_claimColumns (snapshot : Snapshot) :
    InStep (claimColumns snapshot.nodes) ["Name", "Namespace", "Volume", "State", "Pods"]
      fun claim => (claimSummary snapshot claim).row where
  header_eq := rfl
  row_eq claim := by
    rw [ClaimSummary.row, claimSummary, text_stateIn, joinOrNone_eq_joined]
    rfl

section

variable (snapshot : Snapshot) (claim : CorrelatedClaim)

/-- The texts for the containers that mount a claim. -/
def containerLines : List String :=
  containersMounting snapshot.pods claim.namespaceName claim.name

theorem value_claimDescription :
    (claimDescription snapshot claim).toDatum.value =
      describedClaim snapshot.nodes (containerLines snapshot claim) claim := by
  rw [ClaimDescription.toDatum, Datum.value_record, List.map_append, claimDescription,
    value_fields_claim, text_stateIn]
  simp only [List.map_cons, List.map_nil, Datum.value_texts]
  rfl

theorem text_claimDescription :
    (claimDescription snapshot claim).text =
      claimBlock snapshot.nodes (containerLines snapshot claim) claim := by
  have hnone : fieldLine "Containers" "<none>" = "Containers:     <none>\n" := by decide
  unfold ClaimDescription.text claimBlock containerLines
  simp only [claimDescription, text_stateIn, joinOrNone_eq_joined, List.isEmpty_iff]
  rw [hnone, fieldLine_eq "Name" "Name:           " (by decide),
    fieldLine_eq "Namespace" "Namespace:      " (by decide),
    fieldLine_eq "Volume" "Volume:         " (by decide),
    fieldLine_eq "Size" "Size:           " (by decide),
    fieldLine_eq "Status" "Status:         " (by decide),
    fieldLine_eq "State" "State:          " (by decide),
    fieldLine_eq "Pods" "Pods:           " (by decide)]
  simp only [String.append_assoc]

end

/-! ## Outcomes -/

/-- The volume of a claim that is joined is known, whatever the defects of what is joined. -/
theorem findSome?_attachmentDefect?_ne (nodes : List Node) (claims : List CorrelatedClaim)
    (namespaceName name volumeName : String) :
    claims.findSome? (fun claim => attachmentDefect? nodes claim.volume) ≠
      some (.claimVolumeNotFound namespaceName name volumeName) := by
  intro h
  obtain ⟨claim, -, hdefect⟩ := List.exists_of_findSome?_eq_some h
  unfold attachmentDefect? at hdefect
  split at hdefect <;> simp at hdefect

section

variable (snapshot : Snapshot) (kept : List CorrelatedClaim) (format : OutputFormat)

theorem shows_claimSummaries :
    Shows format (kept.map (listedClaim snapshot.nodes))
      (Tabulates (claimColumns snapshot.nodes) kept)
      (render format (claimsDatum (kept.map (claimSummary snapshot)))
        fun _ => claimsText (kept.map (claimSummary snapshot))) :=
  shows_render ClaimSummary.wellFormed (value_claimSummary snapshot) kept
    (tabulates_listing (inStep_claimColumns snapshot) (List.cons_ne_nil _ _) kept) format

theorem shows_claimDescriptions :
    let containers := containerLines snapshot
    Shows format
      (kept.map fun claim => describedClaim snapshot.nodes (containers claim) claim)
      (Describes
        (fun claim text => text = claimBlock snapshot.nodes (containers claim) claim) kept)
      (render format (.list ((kept.map (claimDescription snapshot)).map (·.toDatum)))
        fun _ => blocks ((kept.map (claimDescription snapshot)).map (·.text))) := by
  intro containers
  have hblocks : Describes
      (fun claim text => text = claimBlock snapshot.nodes (containers claim) claim) kept
      (blocks ((kept.map (claimDescription snapshot)).map (·.text))) :=
    describes_blocks (text_claimDescription snapshot) kept
  exact shows_render ClaimDescription.wellFormed (value_claimDescription snapshot) kept hblocks
    format

end

/-- Both claim commands fail with the first attachment of a wanted claim's volume on a node that is
not known, and never because the volume of a claim is not known.  Otherwise they show the wanted
claims, in their order. -/
theorem claim_outcomes (snapshot : Snapshot) (invocation : Invocation) :
    let kept := keptClaims snapshot invocation.identifiers
    let defect? := kept.findSome? fun claim => attachmentDefect? snapshot.nodes claim.volume
    let unmatched :=
      missing? (namesClaim snapshot.nodes) invocation.identifiers (joinedClaims snapshot)
    Outcome (getClaims (.ofSnapshot snapshot) invocation) defect? unmatched
        (Shows invocation.format (kept.map (listedClaim snapshot.nodes))
          (Tabulates (claimColumns snapshot.nodes) kept)) ∧
      Outcome (describeClaims (.ofSnapshot snapshot) invocation) defect? unmatched
        (Shows invocation.format
          (kept.map fun claim =>
            describedClaim snapshot.nodes (containerLines snapshot claim) claim)
          (Describes
            (fun claim text =>
              text = claimBlock snapshot.nodes (containerLines snapshot claim) claim)
            kept)) ∧
      ∀ namespaceName name volumeName,
        getClaims (.ofSnapshot snapshot) invocation ≠
            .error (.claimVolumeNotFound namespaceName name volumeName) ∧
          describeClaims (.ofSnapshot snapshot) invocation ≠
            .error (.claimVolumeNotFound namespaceName name volumeName) := by
  intro kept defect? unmatched
  have hunmatched :
      missing? (namesClaim snapshot.nodes) invocation.identifiers kept = unmatched :=
    missing?_filter_isWanted _ _
  have hdefect := findSome?_attachmentDefect?_ne snapshot.nodes kept
  rw [getClaims_ofSnapshot, describeClaims_ofSnapshot, ← hunmatched]
  refine ⟨outcome_unlessDefect (shows_claimSummaries snapshot kept invocation.format),
    outcome_unlessDefect (shows_claimDescriptions snapshot kept invocation.format),
    fun namespaceName name volumeName => ?_⟩
  have hnever := hdefect namespaceName name volumeName
  exact ⟨mt unlessDefect_eq_error_iff.mp hnever, mt unlessDefect_eq_error_iff.mp hnever⟩

/-- Three claims, of which one has an attached volume, one a volume that is attached on a node which
is not known, and one no known volume. -/
def mountedClaims : Snapshot where
  capturedAt := none
  nodes := [{ Node.blank with id := "a", hostname := "h1" }]
  volumes := [⟨"1", "v", 10737418240, "a", .degraded, []⟩,
    { Volume.blank with id := "2", name := "w", attachedOn := "b" }]
  pods := [⟨"ns", "p", [⟨"data", "c"⟩], [⟨"app", ["c"]⟩, ⟨"log", []⟩]⟩,
    ⟨"other", "q", [⟨"data", "c"⟩], [⟨"app", ["c"]⟩]⟩]
  claims := [⟨"ns", "e", "elsewhere"⟩, ⟨"ns", "c", "v"⟩, ⟨"ns", "d", "w"⟩]

theorem mountedClaims_shown :
    (∃ output, getClaims (.ofSnapshot mountedClaims) ⟨.table, ["h1", "e"], false⟩ = .ok output ∧
      output.unmatched = some (.noMatch "e") ∧
      Text.lines output.text.toList =
        [" Name  Namespace  Volume  State  Pods ".toList,
          " c     ns         v       on h1  ns/p ".toList]) ∧
    (∃ output, getClaims (.ofSnapshot mountedClaims) ⟨.json, ["c"], false⟩ = .ok output ∧
      Json.decode output.text = some (.list [.record [
        ("name", .text "c"), ("namespace", .text "ns"),
        ("volume", .record [
          ("id", .text "1"), ("name", .text "v"), ("sizeBytes", .natural 10737418240),
          ("attachedOn", .text "a"), ("status", .text "Degraded"), ("replicaSets", .list [])]),
        ("podNames", .texts ["ns/p"]), ("state", .text "on h1")]])) ∧
    (∃ output,
      describeClaims (.ofSnapshot mountedClaims) ⟨.table, ["c"], false⟩ = .ok output ∧
      output.text = "Name:           c\nNamespace:      ns\nVolume:         v (1)\n" ++
        "Size:           10.0 GiB\nStatus:         DEGRADED\nState:          on h1\n" ++
        "Pods:           ns/p\nContainers:\n  ns/p: app\n") ∧
    getClaims (.ofSnapshot mountedClaims) ⟨.table, [], false⟩ =
      .error (.danglingAttachment "w" "b") := by
  have hlist := (claim_outcomes mountedClaims ⟨.table, ["h1", "e"], false⟩).1
  have hjson := (claim_outcomes mountedClaims ⟨.json, ["c"], false⟩).1
  have hdescribe := (claim_outcomes mountedClaims ⟨.table, ["c"], false⟩).2.1
  have hall := (claim_outcomes mountedClaims ⟨.table, [], false⟩).1
  have hkept : keptClaims mountedClaims ["c"] =
      [⟨"c", "ns", mountedClaims.volumes[0], ["ns/p"]⟩] := by decide
  refine ⟨?list, ?json, ?describe, hall.error _ (by decide)⟩
  case list =>
    obtain ⟨output, houtput, hunmatched, hshows⟩ := hlist.output (by decide)
    have hlaid := (hshows.readable (.inl rfl)).laidOut (by decide)
    exact ⟨output, houtput, hunmatched.trans (by decide), hlaid.lines_eq.trans (by decide +kernel)⟩
  case json =>
    obtain ⟨output, houtput, -, hshows⟩ := hjson.output (by decide)
    refine ⟨output, houtput, ?_⟩
    rw [hshows.json rfl, hkept]
    rfl
  case describe =>
    obtain ⟨output, houtput, -, hshows⟩ := hdescribe.output (by decide)
    have hdescribes := hshows.readable (.inl rfl)
    rw [hkept] at hdescribes
    exact ⟨output, houtput, hdescribes.block_of_singleton.trans (by decide +kernel)⟩

end StorageSurvey.Commands
