import Mathlib.Data.List.Induction
import Mathlib.Data.List.Nodup
import StorageSurvey.Survey.Workloads

/-!
# What groups hold

A group holds the values that have its key, in their order and each once.  Values with one key are
added without a look at what is there.  A value with several keys is added under a key unless it is
the last value there, and this one comparison is enough: what a group holds before the turn of a
value are earlier values, and until its turn is over nothing else is added anywhere.

The step of the proof is the turn of one value (`group_foldl_addUnlessLast`), the run goes through
values that are distinct (`group_groupByKeys`).  Pods and claims are grouped by their positions,
which are distinct, so that looking up a name gives what a pass over the whole list gives.
-/

namespace StorageSurvey.Survey

open StorageSurvey.Inventory

namespace Index

variable {α : Type}

/-! ## One key for each value -/

theorem group_groupByKey (key : α → String) (values : List α) (wanted : String) :
    (groupByKey key values).group wanted = values.filter fun value => key value == wanted := by
  induction values using List.reverseRecOn with
  | nil => rfl
  | append_singleton values value ih =>
      rw [groupByKey, List.foldl_append, List.filter_append, ← ih]
      change ((groupByKey key values).add (key value) value).group wanted = _
      rw [group_add]
      by_cases h : wanted = key value
      · simp [h]
      · simp [h, Ne.symm h]

/-! ## Several keys for each value -/

variable [DecidableEq α]

theorem group_addUnlessLast (index : Index (List α)) (key wanted : String) (value : α) :
    (index.addUnlessLast key value).group wanted =
      if wanted = key ∧ (index.group wanted).getLast? ≠ some value then
        index.group wanted ++ [value]
      else index.group wanted := by
  unfold addUnlessLast
  by_cases hkey : wanted = key
  · subst hkey
    by_cases hlast : (index.group wanted).getLast? = some value
    · simp [hlast]
    · simp [hlast]
  · by_cases hlast : (index.group key).getLast? = some value
    · simp [hkey, hlast]
    · simp [hkey, hlast]

/-- In the turn of a value each of its groups takes it once, however often a key is repeated and
whatever keys stand between the repetitions. -/
theorem group_foldl_addUnlessLast (index : Index (List α)) (keys : List String) (value : α)
    (wanted : String) :
    (keys.foldl (fun index key => index.addUnlessLast key value) index).group wanted =
      if wanted ∈ keys ∧ (index.group wanted).getLast? ≠ some value then
        index.group wanted ++ [value]
      else index.group wanted := by
  induction keys generalizing index with
  | nil => simp
  | cons key keys ih =>
      rw [List.foldl_cons, ih, group_addUnlessLast]
      by_cases hlast : (index.group wanted).getLast? = some value
      · simp [hlast]
      · by_cases hkey : wanted = key
        · -- it is the last one from now on, so that no repetition of the key adds it again
          subst hkey
          simp [hlast]
        · simp [hkey, hlast]

theorem groupByKeys_concat (keys : α → List String) (values : List α) (value : α) :
    groupByKeys keys (values ++ [value]) =
      (keys value).foldl (fun index key => index.addUnlessLast key value)
        (groupByKeys keys values) := by
  rw [groupByKeys, List.foldl_append]
  rfl

/-- The group of a key is the sublist of the values that have it. -/
theorem group_groupByKeys (keys : α → List String) {values : List α} (hdistinct : values.Nodup)
    (wanted : String) :
    (groupByKeys keys values).group wanted = values.filter fun value => wanted ∈ keys value := by
  induction values using List.reverseRecOn with
  | nil => rfl
  | append_singleton values value ih =>
      rw [← List.concat_eq_append, List.nodup_concat] at hdistinct
      obtain ⟨hfresh, hrest⟩ := hdistinct
      -- before its turn the value is in no group, and so it is the last one of none
      have hlast : ((groupByKeys keys values).group wanted).getLast? ≠ some value := by
        intro h
        rw [ih hrest] at h
        exact hfresh (List.mem_filter.mp (List.mem_of_getLast? h)).1
      rw [groupByKeys_concat, group_foldl_addUnlessLast, List.filter_append]
      by_cases hkey : wanted ∈ keys value
      · rw [if_pos ⟨hkey, hlast⟩, ih hrest]
        simp [hkey]
      · rw [if_neg fun h => hkey h.1, ih hrest]
        simp [hkey]

end Index

/-! ## Pods and claims by their names -/

/-- The pods of a namespace with a volume that a claim of this name backs; the empty namespace
stands for all. -/
def podsMounting (pods : List Pod) (namespaceName claim : String) : List Pod :=
  pods.filter fun pod =>
    pod.references claim && (namespaceName = "" || pod.namespaceName == namespaceName)

/-- The claims that are bound to a volume of this name. -/
def claimsBoundTo (claims : List Claim) (volumeName : String) : List Claim :=
  claims.filter fun claim => claim.volumeName == volumeName

/-- What is kept of the positions of a list by what stands there is what is kept of the list. -/
theorem map_get_filter_finRange {α : Type} (records : List α) (keeps : α → Bool) :
    ((List.finRange records.length).filter fun position => keeps (records.get position)).map
        records.get =
      records.filter keeps := by
  calc ((List.finRange records.length).filter (keeps ∘ records.get)).map records.get
      = ((List.finRange records.length).map records.get).filter keeps := List.filter_map.symm
    _ = records.filter keeps := by rw [List.map_get_finRange]

/-- A claim is found under the positions of the pods that reference it, in ascending order. -/
theorem group_byClaim_ofList (pods : List Pod) (claim : String) :
    (Pods.ofList pods).byClaim.group claim =
      (List.finRange pods.length).filter fun position => (pods.get position).references claim := by
  refine (Index.group_groupByKeys _ (List.nodup_finRange pods.length) claim).trans ?_
  refine List.filter_congr fun position _ => ?_
  rw [Bool.eq_iff_iff, decide_eq_true_iff, List.mem_map, Pod.references_iff]

theorem referencing_ofList (pods : List Pod) (claim : String) :
    (Pods.ofList pods).referencing claim = pods.filter (·.references claim) := by
  rw [Pods.referencing, group_byClaim_ofList]
  exact map_get_filter_finRange pods (·.references claim)

theorem referencingIn_ofList (pods : List Pod) (namespaceName claim : String) :
    (Pods.ofList pods).referencingIn namespaceName claim =
      podsMounting pods namespaceName claim := by
  rw [Pods.referencingIn, referencing_ofList, List.filter_filter, podsMounting]
  exact List.filter_congr fun pod _ => Bool.and_comm _ _

theorem boundTo_ofList (claims : List Claim) (volume : Volume) :
    (Claims.ofList claims).boundTo volume = claimsBoundTo claims volume.name := by
  rw [Claims.boundTo, Claims.ofList, Index.group_groupByKey]
  exact map_get_filter_finRange claims (·.volumeName == volume.name)

end StorageSurvey.Survey
