import StorageSurvey.Sources.Fetch

/-!
# Watching two sources

A fetch cannot tell beforehand when its sources wake up.  It looks at both of them time and again,
keeps what one of them has given until the other has given something too, and ends with the first
failure that it comes upon.  `fetchBoth` names the two times at which there is something to see.
Here the looking itself is spelled out, and `FirstSeen.watch_eq` says that the times do not matter,
as long as they are in order and the two wake-ups are among them.

It rests on one fact about a source, `poll_eq`: up to the limit it shows nothing before it wakes up,
and one thing from then on.  So it makes no difference whether a source that has given something is
asked again, and looking too often shows nothing new.
-/

namespace StorageSurvey.Sources

open StorageSurvey.Time

variable {α β : Type} {limit : Duration}

namespace Source

/-! ## A source up to the limit -/

variable {source : Source α} {earlier now : Nat}

theorem wakes_le_limit : source.wakes limit ≤ limit.nanoseconds :=
  Nat.min_le_right ..

/-- Up to the limit a source shows nothing before it wakes up, and one thing from then on. -/
theorem poll_eq (hlimit : now ≤ limit.nanoseconds) :
    source.poll limit now =
      if source.wakes limit ≤ now then some (source.verdict limit) else none := by
  unfold poll wakes verdict
  by_cases hin : source.delay.nanoseconds ≤ limit.nanoseconds
  · rw [Nat.min_eq_left hin, if_pos hin]
    by_cases hdone : source.delay.nanoseconds ≤ now
    · rw [if_pos hdone, if_pos hdone]
    · rw [if_neg hdone, if_neg hdone, if_neg (by omega)]
  · rw [Nat.min_eq_right (by omega), if_neg hin, if_neg (by omega)]

/-- What a source has shown it goes on to show. -/
theorem poll_of_le {shown : Except Failure α} (hle : earlier ≤ now)
    (hlimit : now ≤ limit.nanoseconds) (h : source.poll limit earlier = some shown) :
    source.poll limit now = some shown := by
  rw [poll_eq (Nat.le_trans hle hlimit)] at h
  rw [poll_eq hlimit]
  split at h
  · rename_i hwakes
    rw [if_pos (Nat.le_trans hwakes hle)]
    exact h
  · cases h

/-! ## Asking a source -/

/-- Asks a source, unless it has given something already. -/
def ask (limit : Duration) (source : Source α) (now : Nat) : Option α → Except Failure (Option α)
  | some given => .ok (some given)
  | none => match source.poll limit now with
      | some result => some <$> result
      | none => .ok none

/-- What a source gives at a time, if it does not fail. -/
def given? (limit : Duration) (source : Source α) (now : Nat) : Option α :=
  match source.poll limit now with
  | some (.ok given) => some given
  | _ => none

/-- It makes no difference whether a source that has given something is asked again. -/
theorem ask_given? (hle : earlier ≤ now) (hlimit : now ≤ limit.nanoseconds) :
    source.ask limit now (source.given? limit earlier) = source.ask limit now none := by
  unfold given?
  split
  · rename_i given hgiven
    rw [ask, ask, poll_of_le hle hlimit hgiven]
    rfl
  · rfl

end Source

/-! ## Two sources -/

/-- What two sources have given so far. -/
structure Progress (α β : Type) where
  first : Option α
  second : Option β

namespace Progress

def nothing : Progress α β :=
  ⟨none, none⟩

/-- Looks at two sources, at the first one first. -/
def look (limit : Duration) (first : Source α) (second : Source β) (now : Nat)
    (progress : Progress α β) : Except Failure (Progress α β) := do
  let ofFirst ← first.ask limit now progress.first
  let ofSecond ← second.ask limit now progress.second
  return ⟨ofFirst, ofSecond⟩

/-- What two sources give at a time. -/
def reached (limit : Duration) (first : Source α) (second : Source β) (now : Nat) :
    Progress α β :=
  ⟨first.given? limit now, second.given? limit now⟩

end Progress

/-- Looks at two sources at given times, until one of them fails or both have given something. -/
def watch (limit : Duration) (first : Source α) (second : Source β) :
    Progress α β → List Nat → Option (Ending (α × β))
  | _, [] => none
  | progress, now :: later =>
      match progress.look limit first second now with
      | .error failure => some ⟨now, .error failure⟩
      | .ok ⟨some a, some b⟩ => some ⟨now, .ok (a, b)⟩
      | .ok progress => watch limit first second progress later

variable {first : Source α} {second : Source β}

/-- What has been given by an earlier time makes no difference to a look. -/
theorem look_reached {earlier now : Nat} (hle : earlier ≤ now) (hlimit : now ≤ limit.nanoseconds) :
    (Progress.reached limit first second earlier).look limit first second now =
      Progress.nothing.look limit first second now := by
  unfold Progress.look Progress.reached
  rw [Source.ask_given? hle hlimit, Source.ask_given? hle hlimit]
  rfl

/-- A look ends the watch with what the sources show together, or else reaches what they give. -/
theorem watch_cons {progress : Progress α β} {now : Nat}
    (h : progress.look limit first second now = Progress.nothing.look limit first second now)
    (later : List Nat) :
    watch limit first second progress (now :: later) =
      match both (first.poll limit now) (second.poll limit now) with
      | some result => some ⟨now, result⟩
      | none => watch limit first second (.reached limit first second now) later := by
  rw [watch, h]
  unfold Progress.look Progress.reached Progress.nothing Source.ask Source.given?
  rcases first.poll limit now with _ | (failure | a)
  · rcases second.poll limit now with _ | (failure | b) <;> rfl
  · rfl
  · rcases second.poll limit now with _ | (failure | b) <;> rfl

/-! ## What is seen first -/

/-- An ending is the first thing that looks at two sources show, and one of the sources wakes up
when it is shown. -/
structure FirstSeen (limit : Duration) (first : Source α) (second : Source β)
    (ending : Ending (α × β)) : Prop where
  shown : both (first.poll limit ending.time) (second.poll limit ending.time) = some ending.result
  nothing_before : ∀ now < ending.time, both (first.poll limit now) (second.poll limit now) = none
  wakes : ending.time = first.wakes limit ∨ ending.time = second.wakes limit

namespace FirstSeen

variable {ending : Ending (α × β)}

theorem time_le_limit (h : FirstSeen limit first second ending) :
    ending.time ≤ limit.nanoseconds := by
  rcases h.wakes with hfirst | hsecond
  · rw [hfirst]
    exact Source.wakes_le_limit
  · rw [hsecond]
    exact Source.wakes_le_limit

/-- What is seen first is what is seen at one of the two times at which a fetch looks. -/
theorem fetchBoth_eq (h : FirstSeen limit first second ending) :
    fetchBoth limit first second = ending := by
  have htimes : ending.time = min (first.wakes limit) (second.wakes limit) ∨
      min (first.wakes limit) (second.wakes limit) < ending.time ∧
        ending.time = max (first.wakes limit) (second.wakes limit) := by
    have := h.wakes
    omega
  unfold fetchBoth
  rcases htimes with hearly | ⟨hlt, hlate⟩
  · simp only [← hearly, h.shown]
  · simp only [← hlate, h.nothing_before _ hlt, h.shown, Option.get_some]

/-- Looking at times that are in order ends with what is seen first, if that is seen at one of
them. -/
theorem watch_eq (h : FirstSeen limit first second ending) {instants : List Nat}
    (hsorted : instants.Pairwise (· ≤ ·)) (hmem : ending.time ∈ instants) :
    watch limit first second .nothing instants = some ending := by
  -- what is kept on the way makes no difference to any of the looks that are left
  suffices hall : ∀ progress : Progress α β, (∀ now ∈ instants, now ≤ limit.nanoseconds →
      progress.look limit first second now = Progress.nothing.look limit first second now) →
      watch limit first second progress instants = some ending from
    hall .nothing fun _ _ _ => rfl
  induction instants with
  | nil => cases hmem
  | cons now later ih =>
      intro progress hprogress
      obtain ⟨hnow, hlater⟩ := List.pairwise_cons.mp hsorted
      have hle : now ≤ ending.time := by
        rcases List.mem_cons.mp hmem with heq | htail
        · exact Nat.le_of_eq heq.symm
        · exact hnow _ htail
      have hlimit : now ≤ limit.nanoseconds := Nat.le_trans hle h.time_le_limit
      rw [watch_cons (hprogress now List.mem_cons_self hlimit)]
      rcases Nat.eq_or_lt_of_le hle with heq | hlt
      · rw [heq, h.shown]
      · rw [h.nothing_before now hlt]
        have htail : ending.time ∈ later :=
          (List.mem_cons.mp hmem).resolve_left (Nat.ne_of_gt hlt)
        exact ih hlater htail _ fun instant hinstant => look_reached (hnow instant hinstant)

end FirstSeen

end StorageSurvey.Sources
