import StorageSurvey.Proofs.Sources.Loading

/-!
# A file as both sources

A snapshot in a file can be loaded at once, or fetched with the file as the source of both of its
halves.  The second way reads the file twice, takes one half from each reading, cuts the pods and
claims down to the scope on their own, and puts the halves together again.  Nothing is lost on the
way: both ways give the same snapshot but for when it was captured, and if the file cannot be read
or does not hold a snapshot, both readings fail with that, and whichever of them is seen first is
what the fetch fails with.
-/

namespace StorageSurvey.Sources

open StorageSurvey.CommandLine StorageSurvey.Inventory StorageSurvey.Time

/-! ## Loading and fetching within the limit -/

/-- A source that is done within the limit fails with its own failure. -/
theorem Source.Fails.gives_of_inTime {α : Type} {limit : Duration} {source : Source α} {time : Nat}
    {failure : Failure} (h : source.Fails limit time failure)
    (inTime : source.delay.nanoseconds ≤ limit.nanoseconds) : source.result = .error failure := by
  cases h with
  | byItself _ gives => exact gives
  | byTheLimit late => exact absurd inTime (Nat.not_le_of_lt late)

/-- If both sources fail with one failure, it does not matter which of them is seen first. -/
theorem result_fetchBoth_of_error {α β : Type} {limit : Duration} {first : Source α}
    {second : Source β} {failure : Failure}
    (hfirst : first.delay.nanoseconds ≤ limit.nanoseconds)
    (hfirstGives : first.result = .error failure)
    (hsecond : second.delay.nanoseconds ≤ limit.nanoseconds)
    (hsecondGives : second.result = .error failure) :
    (fetchBoth limit first second).result = .error failure := by
  rcases succeeds_or_failsFirst limit first second with ⟨a, _, hsucceeds, -⟩ | ⟨time, seen, hseen⟩
  · exact nomatch hsucceeds.gives.symm.trans hfirstGives
  · have hsame : seen = failure := by
      rcases hseen with ⟨hfails, -⟩ | ⟨hfails, -⟩
      · exact Except.error.inj ((hfails.gives_of_inTime hfirst).symm.trans hfirstGives)
      · exact Except.error.inj ((hfails.gives_of_inTime hsecond).symm.trans hsecondGives)
    rw [fetchBoth_eq_error_iff.mpr hseen, hsame]

variable {settings : SourceSettings} {contents : FileContents}

/-- The halves of a snapshot, cut down and put together, are the snapshot cut down. -/
theorem assemble_halves (snapshot : Snapshot) (scope : Scope) (capturedAt : Instant) :
    Snapshot.assemble capturedAt snapshot.storage (snapshot.workloads.within scope) =
      { snapshot.within scope with capturedAt := some capturedAt } := rfl

/-- A snapshot that is fetched with one file as both sources is the one that is loaded from the
file, but for when it was captured; and the fetch fails as loading does.  All readings of the file
are done within their limits. -/
theorem fetch_file_eq_load (hfile : settings.kube = false) (contents : FileContents)
    (capturedAt : Instant) {limit loading storing listing : Duration}
    (hloading : loading.nanoseconds ≤ settings.timeout.nanoseconds)
    (hstoring : storing.nanoseconds ≤ limit.nanoseconds)
    (hlisting : listing.nanoseconds ≤ limit.nanoseconds) {surroundings : Surroundings}
    (hreading : surroundings.reading.nanoseconds ≤ settings.timeout.nanoseconds) :
    let loaded := ((snapshotFromFile settings.path loading contents).verdict settings.timeout).map
      (·.within settings.scope)
    let fetched := fetchSnapshot limit (storageFromFile settings.path storing contents)
      (workloadsFromFile settings.path listing settings.scope contents) capturedAt
    loaded = loadSnapshot settings contents surroundings ∧
      fetched.result = (loadSnapshot settings contents surroundings).map
        fun snapshot => { snapshot with capturedAt := some capturedAt } := by
  have hloaded : (snapshotFromFile settings.path loading contents).verdict settings.timeout =
      snapshotOfFile settings.path contents := if_pos hloading
  simp only [hloaded, loadSnapshot_of_file hfile hreading, true_and]
  cases hread : snapshotOfFile settings.path contents with
  | error failure =>
      have hstorage : (storageFromFile settings.path storing contents).result = .error failure := by
        rw [storageFromFile, hread]
        rfl
      have hworkloads : (workloadsFromFile settings.path listing settings.scope contents).result =
          .error failure := by
        rw [workloadsFromFile, hread]
        rfl
      have hfetch := result_fetchBoth_of_error hstoring hstorage hlisting hworkloads
      rw [fetchSnapshot, hfetch]
      rfl
  | ok snapshot =>
      have hstorage : (storageFromFile settings.path storing contents).Succeeds limit
          snapshot.storage := by
        refine ⟨hstoring, ?_⟩
        rw [storageFromFile, hread]
        rfl
      have hworkloads : (workloadsFromFile settings.path listing settings.scope contents).Succeeds
          limit (snapshot.workloads.within settings.scope) := by
        refine ⟨hlisting, ?_⟩
        rw [workloadsFromFile, hread]
        rfl
      have hfetch := fetchBoth_eq_ok_iff.mpr ⟨hstorage, hworkloads, rfl⟩
      rw [fetchSnapshot, hfetch]
      exact congrArg Except.ok (assemble_halves snapshot settings.scope capturedAt)

/-- A snapshot with a stamp of its own, and with pods in two namespaces. -/
def stamped : Snapshot :=
  { Snapshot.blank with
    capturedAt := some { noon with date := ⟨2020, 1, 1, by decide⟩ }
    pods := [.empty "a" "p", .empty "b" "q"] }

/-- How it is looked for in a file that holds it in JSON. -/
def stampedSettings : SourceSettings :=
  ⟨"stamped.JSON", false, .only "b", .ofSeconds 30⟩

/-- The readings take different times, one of them all that there is.  Without the file, both of
them fail. -/
theorem stamped_fetched :
    let contents : FileContents := .ok (String.ofList (Json.pretty 0 stamped.toDatum))
    let missing : FileContents := .error .notFound
    (fetchSnapshot (.ofSeconds 5) (storageFromFile "stamped.JSON" (.ofSeconds 5) contents)
        (workloadsFromFile "stamped.JSON" (.ofSeconds 1) (.only "b") contents) noon).result =
      .ok { stamped with capturedAt := some noon, pods := [.empty "b" "q"] } ∧
    (fetchSnapshot (.ofSeconds 5) (storageFromFile "stamped.JSON" (.ofSeconds 5) missing)
        (workloadsFromFile "stamped.JSON" (.ofSeconds 1) (.only "b") missing) noon).result =
      .error (.file .notFound) := by
  intro contents missing
  have hfetch (contents : FileContents) := fetch_file_eq_load
    (rfl : stampedSettings.kube = false) contents noon
    (by decide : (Duration.ofSeconds 2).nanoseconds ≤ stampedSettings.timeout.nanoseconds)
    (by decide : (Duration.ofSeconds 5).nanoseconds ≤ (Duration.ofSeconds 5).nanoseconds)
    (by decide : (Duration.ofSeconds 1).nanoseconds ≤ (Duration.ofSeconds 5).nanoseconds)
    (by decide : Surroundings.offline.reading.nanoseconds ≤ stampedSettings.timeout.nanoseconds)
  have hload : loadSnapshot stampedSettings contents = .ok (stamped.within (.only "b")) :=
    loadSnapshot_pretty rfl (by decide) stamped
  have hwithin : stamped.within (.only "b") = { stamped with pods := [.empty "b" "q"] } := by
    rfl
  refine ⟨?_, (hfetch missing).2⟩
  rw [hwithin] at hload
  have hstamped := (hfetch contents).2
  rw [hload] at hstamped
  exact hstamped

end StorageSurvey.Sources
