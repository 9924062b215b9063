import StorageSurvey.Failure
import StorageSurvey.Inventory.Snapshot

/-!
# Fetching both halves of a snapshot at once

The two sources of a snapshot work at the same time, each within the same limit of time.  Whenever
one of them wakes up, both are looked at, the storage control plane first: the first failure that
is seen ends the fetch, and so does success once both have it.  A source that is done just at the
limit is in time.
-/

namespace StorageSurvey.Sources

open StorageSurvey.Inventory StorageSurvey.Time

/-- A source that is done some time after it was asked. -/
structure Source (α : Type) where
  name : String
  delay : Duration
  result : Except Failure α

namespace Source

variable {α : Type}

/-- When a source wakes up: it is done, or the limit is reached. -/
def wakes (limit : Duration) (source : Source α) : Nat :=
  min source.delay.nanoseconds limit.nanoseconds

/-- What a source gives within the limit. -/
def verdict (limit : Duration) (source : Source α) : Except Failure α :=
  if source.delay.nanoseconds ≤ limit.nanoseconds then source.result
  else .error (.timeout source.name limit)

/-- What a source shows at a time, if it shows anything yet. -/
def poll (limit : Duration) (source : Source α) (now : Nat) : Option (Except Failure α) :=
  if source.delay.nanoseconds ≤ now then some source.result
  else if limit.nanoseconds ≤ now then some (.error (.timeout source.name limit))
  else none

theorem isSome_poll {limit : Duration} {source : Source α} {now : Nat}
    (h : source.wakes limit ≤ now) : (source.poll limit now).isSome := by
  unfold wakes at h
  unfold poll
  split
  · rfl
  · rw [if_pos (by omega)]
    rfl

end Source

/-- What two sources show together: the first failure, or what both have once both are done. -/
def both {α β : Type} :
    Option (Except Failure α) → Option (Except Failure β) → Option (Except Failure (α × β))
  | some (.error failure), _ => some (.error failure)
  | _, some (.error failure) => some (.error failure)
  | some (.ok a), some (.ok b) => some (.ok (a, b))
  | _, _ => none

theorem isSome_both {α β : Type} {first : Option (Except Failure α)}
    {second : Option (Except Failure β)} (h₁ : first.isSome) (h₂ : second.isSome) :
    (both first second).isSome := by
  match first, second, h₁, h₂ with
  | some (.error _), some _, _, _ => rfl
  | some (.ok _), some (.error _), _, _ => rfl
  | some (.ok _), some (.ok _), _, _ => rfl

/-- What comes of a fetch, and the time at which it ends. -/
structure Ending (α : Type) where
  time : Nat
  result : Except Failure α

/-- Looks at both sources whenever one of them wakes up. -/
def fetchBoth {α β : Type} (limit : Duration) (first : Source α) (second : Source β) :
    Ending (α × β) :=
  let seen (now : Nat) := both (first.poll limit now) (second.poll limit now)
  let early := min (first.wakes limit) (second.wakes limit)
  let late := max (first.wakes limit) (second.wakes limit)
  match seen early with
  | some result => ⟨early, result⟩
  | none =>
      ⟨late, (seen late).get (isSome_both (Source.isSome_poll (Nat.le_max_left ..))
        (Source.isSome_poll (Nat.le_max_right ..)))⟩

/-- Fetches both halves of a snapshot, which is captured at a given instant. -/
def fetchSnapshot (limit : Duration) (storage : Source StorageInventory)
    (workloads : Source Workloads) (capturedAt : Instant) : Ending Snapshot :=
  let ending := fetchBoth limit storage workloads
  ⟨ending.time, ending.result.map fun halves => .assemble capturedAt halves.1 halves.2⟩

end StorageSurvey.Sources
