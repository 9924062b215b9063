import StorageSurvey.Proofs.Inventory.RoundTrip
import StorageSurvey.Proofs.Sources.FirstFailure
import StorageSurvey.Sources.Load

/-!
# What is loaded

Without the orchestrator a snapshot is what is in its file, cut down to the scope.  With the
orchestrator there are two steps.  Where it cannot be connected to, that is what a load fails with,
whatever is in the file; else both halves of the snapshot are fetched, and a load succeeds exactly
if all three sources are there in time.
-/

namespace StorageSurvey.Sources

open StorageSurvey.CommandLine StorageSurvey.Inventory StorageSurvey.Time

variable {settings : SourceSettings} {contents : FileContents} {surroundings : Surroundings}

/-! ## From a file -/

theorem loadSnapshot_of_file (hfile : settings.kube = false)
    (hreading : surroundings.reading.nanoseconds ≤ settings.timeout.nanoseconds) :
    loadSnapshot settings contents surroundings =
      (snapshotOfFile settings.path contents).map (·.within settings.scope) := by
  have hverdict : (snapshotFromFile settings.path surroundings.reading contents).verdict
      settings.timeout = snapshotOfFile settings.path contents := if_pos hreading
  unfold loadSnapshot
  simp only [hfile, Bool.false_eq_true, if_false, hverdict]
  cases snapshotOfFile settings.path contents <;> rfl

/-- A snapshot is loaded from a file that holds its text in JSON. -/
theorem loadSnapshot_pretty (hfile : settings.kube = false)
    (hformat : formatOfPath settings.path = .json) (snapshot : Snapshot) :
    loadSnapshot settings (.ok (String.ofList (Json.pretty 0 snapshot.toDatum))) =
      .ok (snapshot.within settings.scope) := by
  have hread : Snapshot.read .json (String.ofList (Json.pretty 0 snapshot.toDatum)) =
      .ok snapshot := by
    simp only [Snapshot.read, read_pretty (reads_snapshot Json.dialect_understands snapshot)]
    rfl
  have hsnapshot : snapshotOfFile settings.path
      (.ok (String.ofList (Json.pretty 0 snapshot.toDatum))) = .ok snapshot := by
    rw [← hread, ← hformat]
    rfl
  rw [loadSnapshot_of_file hfile (Nat.zero_le _), hsnapshot]
  rfl

/-! ## With the orchestrator -/

/-- Where the orchestrator cannot be connected to, the file makes no difference. -/
theorem loadSnapshot_of_unconnected (hkube : settings.kube = true) {time : Nat} {failure : Failure}
    (h : surroundings.connection.Fails settings.timeout time failure) :
    loadSnapshot settings contents surroundings = .error failure := by
  have hverdict := (Source.fails_iff.mp h).2
  unfold loadSnapshot
  simp only [hkube, if_true, hverdict]
  rfl

/-- A fetch gives a snapshot exactly if both of its sources succeed. -/
theorem result_fetchSnapshot_eq_ok_iff {limit : Duration} {storage : Source StorageInventory}
    {workloads : Source Workloads} {capturedAt : Instant} {snapshot : Snapshot} :
    (fetchSnapshot limit storage workloads capturedAt).result = .ok snapshot ↔
      ∃ stored loaded, storage.Succeeds limit stored ∧ workloads.Succeeds limit loaded ∧
        snapshot = .assemble capturedAt stored loaded := by
  constructor
  · intro hresult
    obtain ⟨stored, loaded, hends, hsnapshot⟩ := fetchSnapshot_eq_ok_iff.mp
      (congrArg (Ending.mk (fetchSnapshot limit storage workloads capturedAt).time) hresult)
    obtain ⟨hstored, hloaded, -⟩ := fetchBoth_eq_ok_iff.mp hends
    exact ⟨stored, loaded, hstored, hloaded, hsnapshot⟩
  · rintro ⟨stored, loaded, hstored, hloaded, hsnapshot⟩
    have hends := fetchBoth_eq_ok_iff.mpr ⟨hstored, hloaded, rfl⟩
    exact congrArg Ending.result (fetchSnapshot_eq_ok_iff.mpr ⟨stored, loaded, hends, hsnapshot⟩)

/-- With the orchestrator a snapshot is loaded exactly if that is connected to in time and then the
file and the answer of the orchestrator are there in time.  It has the nodes and volumes of the file
and the pods and claims of the orchestrator. -/
theorem loadSnapshot_with_orchestrator_eq_ok_iff (hkube : settings.kube = true)
    {snapshot : Snapshot} :
    loadSnapshot settings contents surroundings = .ok snapshot ↔
      ∃ connection stored loaded,
        surroundings.connection.Succeeds settings.timeout connection ∧
        (storageFromFile settings.path surroundings.reading contents).Succeeds settings.timeout
          stored ∧
        (connection.workloads settings.scope).Succeeds settings.timeout loaded ∧
        snapshot = .assemble connection.capturedAt stored loaded := by
  unfold loadSnapshot
  simp only [hkube, if_true, ← Source.verdict_eq_ok_iff]
  cases hconnection : surroundings.connection.verdict settings.timeout with
  | error failure => exact ⟨nofun, fun ⟨_, _, _, hconnected, _⟩ => nomatch hconnected⟩
  | ok connection =>
      change (fetchSnapshot _ _ _ _).result = .ok snapshot ↔ _
      rw [result_fetchSnapshot_eq_ok_iff]
      simp only [Source.verdict_eq_ok_iff, Except.ok.injEq]
      constructor
      · rintro ⟨stored, loaded, hsucceeds⟩
        exact ⟨connection, stored, loaded, rfl, hsucceeds⟩
      · rintro ⟨_, stored, loaded, rfl, hsucceeds⟩
        exact ⟨stored, loaded, hsucceeds⟩

end StorageSurvey.Sources
