import StorageSurvey.Proofs.Sources.Watching

/-!
# The first failure of a fetch

Each source of a fetch has a limit of its own.  One that is done by then succeeds or fails when it
is done; one that is not done fails at the limit, by running out of time.  The fetch succeeds if
both sources do, when the later one does.  Otherwise it fails with the failure that comes first,
when it comes, and of two failures at one time with that of the storage control plane.

The cases are told apart by what each source shows when it wakes up, its `verdict`.  In each of them
the ending is named and shown to be what is seen first, so that `fetchBoth` gives it and every watch
that looks in time gives it, too.
-/

namespace StorageSurvey.Sources

open StorageSurvey.Inventory StorageSurvey.Time

variable {α β : Type} {limit : Duration}

namespace Source

/-! ## How a source ends -/

/-- A source succeeds no later than the limit. -/
structure Succeeds (limit : Duration) (source : Source α) (given : α) : Prop where
  inTime : source.delay.nanoseconds ≤ limit.nanoseconds
  gives : source.result = .ok given

/-- When and how a source fails. -/
inductive Fails (limit : Duration) (source : Source α) : Nat → Failure → Prop
  | byItself {failure : Failure} (inTime : source.delay.nanoseconds ≤ limit.nanoseconds)
      (gives : source.result = .error failure) :
      Fails limit source source.delay.nanoseconds failure
  | byTheLimit (late : limit.nanoseconds < source.delay.nanoseconds) :
      Fails limit source limit.nanoseconds (.timeout source.name limit)

variable {source : Source α}

theorem wakes_of_inTime (h : source.delay.nanoseconds ≤ limit.nanoseconds) :
    source.wakes limit = source.delay.nanoseconds :=
  Nat.min_eq_left h

theorem verdict_eq_ok_iff {given : α} :
    source.verdict limit = .ok given ↔ source.Succeeds limit given := by
  unfold verdict
  by_cases hin : source.delay.nanoseconds ≤ limit.nanoseconds
  · rw [if_pos hin]
    exact ⟨fun h => ⟨hin, h⟩, Succeeds.gives⟩
  · rw [if_neg hin]
    exact ⟨nofun, fun h => absurd h.inTime hin⟩

/-- A source fails when it wakes up, and never succeeds then. -/
theorem fails_iff {time : Nat} {failure : Failure} :
    source.Fails limit time failure ↔
      time = source.wakes limit ∧ source.verdict limit = .error failure := by
  unfold verdict
  by_cases hin : source.delay.nanoseconds ≤ limit.nanoseconds
  · rw [if_pos hin, wakes_of_inTime hin]
    constructor
    · intro h
      cases h with
      | byItself _ gives => exact ⟨rfl, gives⟩
      | byTheLimit late => exact absurd hin (Nat.not_le_of_lt late)
    · rintro ⟨rfl, gives⟩
      exact .byItself hin gives
  · have hlate : limit.nanoseconds < source.delay.nanoseconds := Nat.lt_of_not_le hin
    have hwakes : source.wakes limit = limit.nanoseconds := Nat.min_eq_right (Nat.le_of_lt hlate)
    rw [if_neg hin, hwakes]
    constructor
    · intro h
      cases h with
      | byItself inTime _ => exact absurd inTime hin
      | byTheLimit _ => exact ⟨rfl, rfl⟩
    · rintro ⟨rfl, hfailure⟩
      cases hfailure
      exact .byTheLimit hlate

theorem Fails.time_eq {time : Nat} {failure : Failure} (h : source.Fails limit time failure) :
    time = source.wakes limit :=
  (fails_iff.mp h).1

theorem Fails.time_le_limit {time : Nat} {failure : Failure}
    (h : source.Fails limit time failure) : time ≤ limit.nanoseconds := by
  rw [h.time_eq]
  exact wakes_le_limit

theorem Succeeds.not_fails {given : α} (h : source.Succeeds limit given) {time : Nat}
    {failure : Failure} : ¬source.Fails limit time failure := by
  rw [fails_iff, verdict_eq_ok_iff.mpr h]
  exact fun hfails => nomatch hfails.2

/-! ## What a source shows by then -/

theorem poll_eq_none {now : Nat} (h : now < source.wakes limit) : source.poll limit now = none := by
  rw [poll_eq (Nat.le_trans (Nat.le_of_lt h) wakes_le_limit), if_neg (Nat.not_le_of_lt h)]

theorem Succeeds.poll_eq {given : α} (h : source.Succeeds limit given) {now : Nat}
    (hdone : source.delay.nanoseconds ≤ now) (hlimit : now ≤ limit.nanoseconds) :
    source.poll limit now = some (.ok given) := by
  rw [Source.poll_eq hlimit, wakes_of_inTime h.inTime, if_pos hdone, verdict_eq_ok_iff.mpr h]

theorem Fails.poll_eq {time : Nat} {failure : Failure} (h : source.Fails limit time failure) :
    source.poll limit time = some (.error failure) := by
  obtain ⟨rfl, hverdict⟩ := fails_iff.mp h
  rw [Source.poll_eq wakes_le_limit, if_pos (Nat.le_refl _), hverdict]

/-- A source that fails later, if at all, shows no failure yet. -/
theorem poll_ne_error {now : Nat} (hlimit : now ≤ limit.nanoseconds)
    (h : ∀ later failure, source.Fails limit later failure → now < later) (failure : Failure) :
    source.poll limit now ≠ some (.error failure) := by
  intro hpoll
  rw [poll_eq hlimit] at hpoll
  split at hpoll
  · rename_i hwakes
    have hfails : source.Fails limit (source.wakes limit) failure :=
      fails_iff.mpr ⟨rfl, Option.some.inj hpoll⟩
    exact Nat.not_lt_of_le hwakes (h _ failure hfails)
  · cases hpoll

end Source

/-! ## What two sources show together -/

section

variable {first : Option (Except Failure α)} {second : Option (Except Failure β)}

theorem both_none_left (h : ∀ failure, second ≠ some (.error failure)) :
    both (none : Option (Except Failure α)) second = none := by
  rcases second with _ | (failure | b)
  · rfl
  · exact absurd rfl (h failure)
  · rfl

theorem both_none_right (h : ∀ failure, first ≠ some (.error failure)) :
    both first (none : Option (Except Failure β)) = none := by
  rcases first with _ | (failure | a)
  · rfl
  · exact absurd rfl (h failure)
  · rfl

theorem both_error_right (h : ∀ failure, first ≠ some (.error failure)) (failure : Failure) :
    both first (some (.error failure) : Option (Except Failure β)) = some (.error failure) := by
  rcases first with _ | (earlier | a)
  · rfl
  · exact absurd rfl (h earlier)
  · rfl

end

/-! ## The endings of a fetch -/

/-- A failure of one of two sources comes first: it is the first source's and no later than the
second's, or the second's and before the first's. -/
def FailsFirst (limit : Duration) (first : Source α) (second : Source β) (time : Nat)
    (failure : Failure) : Prop :=
  first.Fails limit time failure ∧ (∀ later other, second.Fails limit later other → time ≤ later) ∨
    second.Fails limit time failure ∧ ∀ later other, first.Fails limit later other → time < later

variable {first : Source α} {second : Source β}

/-- Two sources both succeed, or one of their failures comes first. -/
theorem succeeds_or_failsFirst (limit : Duration) (first : Source α) (second : Source β) :
    (∃ a b, first.Succeeds limit a ∧ second.Succeeds limit b) ∨
      ∃ time failure, FailsFirst limit first second time failure := by
  unfold FailsFirst
  simp only [Source.fails_iff, ← Source.verdict_eq_ok_iff]
  rcases hfirst : first.verdict limit with failure | a
  · by_cases hlater : ∀ other, second.verdict limit = .error other →
        first.wakes limit ≤ second.wakes limit
    · exact .inr ⟨_, failure, .inl ⟨⟨rfl, rfl⟩, fun _ other h => h.1 ▸ hlater other h.2⟩⟩
    · simp only [Classical.not_forall, Nat.not_le] at hlater
      obtain ⟨other, hother, hlt⟩ := hlater
      exact .inr ⟨_, other, .inr ⟨⟨rfl, hother⟩, fun _ _ h => h.1 ▸ hlt⟩⟩
  · rcases hsecond : second.verdict limit with failure | b
    · exact .inr ⟨_, failure, .inr ⟨⟨rfl, rfl⟩, fun _ _ h => nomatch h.2⟩⟩
    · exact .inl ⟨a, b, rfl, rfl⟩

/-- If both sources succeed, this is seen as soon as the later one does. -/
theorem firstSeen_of_succeeds {a : α} {b : β} (hfirst : first.Succeeds limit a)
    (hsecond : second.Succeeds limit b) :
    FirstSeen limit first second
      ⟨max first.delay.nanoseconds second.delay.nanoseconds, .ok (a, b)⟩ where
  shown := by
    have hlimit : max first.delay.nanoseconds second.delay.nanoseconds ≤ limit.nanoseconds :=
      Nat.max_le.mpr ⟨hfirst.inTime, hsecond.inTime⟩
    rw [hfirst.poll_eq (Nat.le_max_left ..) hlimit, hsecond.poll_eq (Nat.le_max_right ..) hlimit]
    rfl
  nothing_before := by
    intro now (hnow : now < max first.delay.nanoseconds second.delay.nanoseconds)
    rw [← Source.wakes_of_inTime hfirst.inTime, ← Source.wakes_of_inTime hsecond.inTime] at hnow
    have hlimit : now ≤ limit.nanoseconds := Nat.le_trans (Nat.le_of_lt hnow)
      (Nat.max_le.mpr ⟨Source.wakes_le_limit, Source.wakes_le_limit⟩)
    rcases Nat.lt_or_ge now (first.wakes limit) with hbefore | hafter
    · rw [Source.poll_eq_none hbefore]
      exact both_none_left <| Source.poll_ne_error hlimit fun _ _ h => absurd h hsecond.not_fails
    · have hbefore : now < second.wakes limit := by omega
      rw [Source.poll_eq_none hbefore]
      exact both_none_right <| Source.poll_ne_error hlimit fun _ _ h => absurd h hfirst.not_fails
  wakes := by
    rw [Source.wakes_of_inTime hfirst.inTime, Source.wakes_of_inTime hsecond.inTime]
    show max first.delay.nanoseconds second.delay.nanoseconds = _ ∨ max _ _ = _
    omega

/-- The failure that comes first is seen when it comes. -/
theorem firstSeen_of_failsFirst {time : Nat} {failure : Failure}
    (h : FailsFirst limit first second time failure) :
    FirstSeen limit first second ⟨time, .error failure⟩ := by
  rcases h with ⟨hfails, hother⟩ | ⟨hfails, hother⟩
  · refine ⟨?_, ?_, .inl hfails.time_eq⟩
    · rw [hfails.poll_eq]
      rfl
    · intro now hnow
      have hlimit : now ≤ limit.nanoseconds :=
        Nat.le_trans (Nat.le_of_lt hnow) hfails.time_le_limit
      have hnone : first.poll limit now = none := Source.poll_eq_none (hfails.time_eq ▸ hnow)
      rw [hnone]
      exact both_none_left <| Source.poll_ne_error hlimit fun later other h =>
        Nat.lt_of_lt_of_le hnow (hother later other h)
  · refine ⟨?_, ?_, .inr hfails.time_eq⟩
    · rw [hfails.poll_eq]
      exact both_error_right (Source.poll_ne_error hfails.time_le_limit hother) failure
    · intro now hnow
      have hlimit : now ≤ limit.nanoseconds :=
        Nat.le_trans (Nat.le_of_lt hnow) hfails.time_le_limit
      have hnone : second.poll limit now = none := Source.poll_eq_none (hfails.time_eq ▸ hnow)
      rw [hnone]
      exact both_none_right <| Source.poll_ne_error hlimit fun later other h =>
        Nat.lt_trans hnow (hother later other h)

/-- A fetch ends with what is seen first. -/
theorem firstSeen_fetchBoth (limit : Duration) (first : Source α) (second : Source β) :
    FirstSeen limit first second (fetchBoth limit first second) := by
  rcases succeeds_or_failsFirst limit first second with ⟨a, b, hfirst, hsecond⟩ | ⟨time, failure, h⟩
  · have hseen := firstSeen_of_succeeds hfirst hsecond
    rwa [hseen.fetchBoth_eq]
  · have hseen := firstSeen_of_failsFirst h
    rwa [hseen.fetchBoth_eq]

theorem fetchBoth_eq_error_iff {time : Nat} {failure : Failure} :
    fetchBoth limit first second = ⟨time, .error failure⟩ ↔
      FailsFirst limit first second time failure := by
  constructor
  · intro hends
    rcases succeeds_or_failsFirst limit first second with ⟨a, b, hfirst, hsecond⟩ | ⟨_, _, h⟩
    · rw [(firstSeen_of_succeeds hfirst hsecond).fetchBoth_eq] at hends
      cases hends
    · rw [(firstSeen_of_failsFirst h).fetchBoth_eq] at hends
      cases hends
      exact h
  · exact fun h => (firstSeen_of_failsFirst h).fetchBoth_eq

theorem fetchBoth_eq_ok_iff {time : Nat} {a : α} {b : β} :
    fetchBoth limit first second = ⟨time, .ok (a, b)⟩ ↔
      first.Succeeds limit a ∧ second.Succeeds limit b ∧
        time = max first.delay.nanoseconds second.delay.nanoseconds := by
  constructor
  · intro hends
    rcases succeeds_or_failsFirst limit first second with ⟨_, _, hfirst, hsecond⟩ | ⟨_, _, h⟩
    · rw [(firstSeen_of_succeeds hfirst hsecond).fetchBoth_eq] at hends
      cases hends
      exact ⟨hfirst, hsecond, rfl⟩
    · rw [(firstSeen_of_failsFirst h).fetchBoth_eq] at hends
      cases hends
  · rintro ⟨hfirst, hsecond, rfl⟩
    exact (firstSeen_of_succeeds hfirst hsecond).fetchBoth_eq

/-! ## The snapshot that is fetched -/

section

variable {storage : Source StorageInventory} {workloads : Source Workloads} {capturedAt : Instant}
  {time : Nat}

theorem fetchSnapshot_eq_error_iff {failure : Failure} :
    fetchSnapshot limit storage workloads capturedAt = ⟨time, .error failure⟩ ↔
      FailsFirst limit storage workloads time failure := by
  rw [← fetchBoth_eq_error_iff, fetchSnapshot]
  rcases fetchBoth limit storage workloads with ⟨_, other | _⟩ <;> simp [Except.map]

theorem fetchSnapshot_eq_ok_iff {snapshot : Snapshot} :
    fetchSnapshot limit storage workloads capturedAt = ⟨time, .ok snapshot⟩ ↔
      ∃ stored loaded, fetchBoth limit storage workloads = ⟨time, .ok (stored, loaded)⟩ ∧
        snapshot = .assemble capturedAt stored loaded := by
  unfold fetchSnapshot
  rcases fetchBoth limit storage workloads with ⟨_, _ | ⟨stored, loaded⟩⟩
  · exact ⟨nofun, fun ⟨_, _, hends, _⟩ => nomatch hends⟩
  · constructor
    · intro hends
      cases hends
      exact ⟨stored, loaded, rfl, rfl⟩
    · rintro ⟨_, _, hends, rfl⟩
      cases hends
      rfl

end

/-- A snapshot is fetched exactly if both sources succeed within the limit, once the later one has;
it holds what they give and the instant at which it was captured.  Otherwise the fetch fails with
the failure that comes first, at the time at which it comes, which is never after the limit.  All
that is asked of the looking is that it is done in order and that no wake-up is missed. -/
theorem fetchSnapshot_outcome (limit : Duration) (storage : Source StorageInventory)
    (workloads : Source Workloads) (capturedAt : Instant) :
    let ending := fetchSnapshot limit storage workloads capturedAt
    (∀ time snapshot, ending = ⟨time, .ok snapshot⟩ ↔
      ∃ stored loaded, storage.Succeeds limit stored ∧ workloads.Succeeds limit loaded ∧
        time = max storage.delay.nanoseconds workloads.delay.nanoseconds ∧
        snapshot = ⟨some capturedAt, stored.nodes, stored.volumes, loaded.pods, loaded.claims⟩) ∧
    (∀ time failure, ending = ⟨time, .error failure⟩ ↔
      FailsFirst limit storage workloads time failure) ∧
    ending.time ≤ limit.nanoseconds ∧
    ∀ instants : List Nat, instants.Pairwise (· ≤ ·) → storage.wakes limit ∈ instants →
      workloads.wakes limit ∈ instants →
      watch limit storage workloads .nothing instants =
        some (fetchBoth limit storage workloads) := by
  have hseen := firstSeen_fetchBoth limit storage workloads
  refine ⟨fun time snapshot => ?_, fun _ _ => fetchSnapshot_eq_error_iff, hseen.time_le_limit, ?_⟩
  · simp only [fetchSnapshot_eq_ok_iff, fetchBoth_eq_ok_iff, and_assoc]
    rfl
  · intro instants hsorted hstorage hworkloads
    rcases hseen.wakes with htime | htime
    · exact hseen.watch_eq hsorted (htime ▸ hstorage)
    · exact hseen.watch_eq hsorted (htime ▸ hworkloads)

/-- It would succeed, but not in time. -/
def lateStorage : Source StorageInventory :=
  ⟨"storage", .ofMilliseconds 80, .ok ⟨[Node.blank], []⟩⟩

/-- It fails just at the limit. -/
def failedWorkloads : Source Workloads :=
  ⟨"workloads", .ofMilliseconds 50, .error .orchestrator⟩

def noon : Instant :=
  ⟨⟨2024, 3, 1, by decide⟩, ⟨12, 0, 0, 0, by decide, by decide, by decide, by decide⟩⟩

/-- Of two failures at one time the one of the storage control plane is reported. -/
theorem lateStorage_reported :
    fetchSnapshot (.ofMilliseconds 50) lateStorage failedWorkloads noon =
        ⟨50000000, .error (.timeout "storage" (.ofMilliseconds 50))⟩ ∧
      watch (.ofMilliseconds 50) lateStorage failedWorkloads .nothing
          [0, 20000000, 20000000, 50000000, 80000000] =
        some ⟨50000000, .error (.timeout "storage" (.ofMilliseconds 50))⟩ := by
  have hfirst : FailsFirst (.ofMilliseconds 50) lateStorage failedWorkloads 50000000
      (.timeout "storage" (.ofMilliseconds 50)) := by
    refine .inl ⟨.byTheLimit (by decide), fun later other hother => ?_⟩
    cases hother with
    | byItself _ _ => exact Nat.le_refl _
    | byTheLimit late => exact absurd late (by decide)
  obtain ⟨-, hfails, -, hwatch⟩ :=
    fetchSnapshot_outcome (.ofMilliseconds 50) lateStorage failedWorkloads noon
  refine ⟨(hfails _ _).mpr hfirst, ?_⟩
  rw [hwatch _ (by decide) (by decide) (by decide)]
  exact congrArg some (fetchBoth_eq_error_iff.mpr hfirst)

end StorageSurvey.Sources
