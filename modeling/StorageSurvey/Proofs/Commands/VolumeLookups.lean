import StorageSurvey.Proofs.Commands.Outcomes
import StorageSurvey.Proofs.Survey.Lookups

/-!
# Volumes that are looked up and volumes that are selected

The topology of a volume is asked for by a text that is looked up, while a description is asked for
by a text that selects volumes.  Both should know the same volumes.  They do, with one exception:
the empty text selects nothing, but it is looked up like any other identifier, and so it leads to a
volume with the empty identifier.
-/

namespace StorageSurvey.Commands

open StorageSurvey.Inventory StorageSurvey.Report StorageSurvey.Survey

/-- The topology of a volume is not found exactly if no volume is looked up; a placement on a node
that is not known is another failure. -/
theorem replicationInfoFor_eq_notFound_iff (nodes : List Node) (volumes : Volumes) (key : String) :
    (Nodes.ofList nodes).replicationInfoFor volumes key = .error (.volumeNotFound key) ↔
      volumes.find? key = none := by
  unfold Nodes.replicationInfoFor
  cases volumes.find? key with
  | none => simp
  | some volume =>
      -- what can be wrong with a volume that is found is one of its placements
      change (Nodes.ofList nodes).replicationInfo volume = _ ↔ _
      rw [replicationInfo_ofList]
      cases hdefect : placementDefect? nodes volume with
      | none => simp [unlessDefect]
      | some failure =>
          obtain ⟨_, _, _, _, -, -, -, rfl⟩ := placementDefect?_eq_some_iff.mp hdefect
          simp [unlessDefect]

/-- The description of volumes reports an identifier exactly if no volume is kept for it. -/
theorem describeVolumes_noMatch_iff (snapshot : Snapshot) (key : String) (format : OutputFormat)
    (showLabels : Bool) :
    (∃ output, describeVolumes (.ofSnapshot snapshot) ⟨format, [key], showLabels⟩ = .ok output ∧
        output.unmatched = some (.noMatch key)) ↔
      keptVolumes snapshot [key] = [] := by
  rw [describeVolumes_ofSnapshot]
  cases hkept : keptVolumes snapshot [key] with
  | nil => simp [unlessDefect, missing?]
  | cons volume rest =>
      have hwanted : isWanted namesVolume [key] volume = true := by
        have hmem : volume ∈ keptVolumes snapshot [key] := hkept ▸ List.mem_cons_self
        exact (List.mem_filter.mp hmem).2
      have hnamed : namesVolume volume key = true := by simpa [isWanted] using hwanted
      have hmissing : missing? namesVolume [key] (volume :: rest) = none := by
        simp [missing?, hnamed]
      constructor
      · rintro ⟨output, houtput, hunmatched⟩
        obtain ⟨-, rfl⟩ := unlessDefect_eq_ok_iff.mp houtput
        rw [hmissing] at hunmatched
        cases hunmatched
      · intro hnil
        cases hnil

/-- A text that is an identifier leads to its volume. -/
theorem find?_of_id {volumes : List Volume} {volume : Volume}
    (hmem : volume ∈ survivors Volume.id volumes) :
    (Volumes.ofList volumes).find? volume.id = some volume := by
  have hlast := mem_survivors_iff.mp hmem
  rw [find?_ofList_volumes]
  split
  · exact hlast
  · rw [volumeFields, lookUp?_cons, lastWith?_survivors, hlast, Option.some_or]

/-- The empty text is looked up in vain exactly if no volume has the empty identifier. -/
theorem find?_blank_eq_none_iff (volumes : List Volume) :
    (Volumes.ofList volumes).find? "" = none ↔ ∀ volume ∈ volumes, volume.id ≠ "" := by
  rw [find?_ofList_volumes, if_pos rfl, lastWith?_eq_none_iff, List.mem_map, not_exists]
  simp only [not_and]

/-- A text that is not empty is looked up among the volumes that are selected by it. -/
theorem find?_eq_lookUp?_select (volumes : List Volume) {key : String} (hkey : key ≠ "") :
    (Volumes.ofList volumes).find? key =
      lookUp? volumeFields ((Volumes.ofList volumes).select [key]).items key := by
  rw [find?_ofList_volumes, items_select_volume, if_neg hkey, if_neg hkey, lookUp?_filter]

/-- A text that is not empty is looked up in vain exactly if no volume is selected by it. -/
theorem find?_eq_none_iff_select (volumes : List Volume) {key : String} (hkey : key ≠ "") :
    (Volumes.ofList volumes).find? key = none ↔
      ((Volumes.ofList volumes).select [key]).items = [] := by
  rw [find?_ofList_volumes, items_select_volume, if_neg hkey, if_neg hkey, lookUp?_eq_none_iff]

/-- A text that is an identifier leads to its volume.  A volume is looked up by a text exactly if
one is selected by it, it is one of those that are selected, and a topology is not found exactly if
the description reports the text, unless the text is empty and so is the identifier of a volume. -/
theorem volume_lookup_agrees_iff (snapshot : Snapshot) (key : String) (format : OutputFormat)
    (showLabels : Bool) :
    let view := View.ofSnapshot snapshot
    let kept := (view.volumes.select [key]).items
    let namesNoBlank := key = "" → ∀ volume ∈ snapshot.volumes, volume.id ≠ ""
    (∀ volume ∈ view.volumes.all, volume.id = key → view.volumes.find? key = some volume) ∧
      (((view.volumes.find? key).isSome ↔ kept ≠ []) ↔ namesNoBlank) ∧
      ((∀ found, view.volumes.find? key = some found → found ∈ kept) ↔ namesNoBlank) ∧
      ((view.nodes.replicationInfoFor view.volumes key = .error (.volumeNotFound key) ↔
          ∃ output, describeVolumes view ⟨format, [key], showLabels⟩ = .ok output ∧
            output.unmatched = some (.noMatch key)) ↔
        namesNoBlank) := by
  intro view kept namesNoBlank
  have hnotFound : view.nodes.replicationInfoFor view.volumes key = .error (.volumeNotFound key) ↔
      view.volumes.find? key = none :=
    replicationInfoFor_eq_notFound_iff snapshot.nodes view.volumes key
  have hnoMatch := describeVolumes_noMatch_iff snapshot key format showLabels
  rw [← (select_volumes snapshot [key]).1] at hnoMatch
  change _ ↔ kept = [] at hnoMatch
  refine ⟨?_, ?_⟩
  · intro volume hmem hid
    subst hid
    exact find?_of_id (all_ofList_volumes snapshot.volumes ▸ hmem)
  rw [hnotFound, hnoMatch]
  by_cases hkey : key = ""
  · have hkept : kept = [] := (items_select_volume snapshot.volumes key).trans (if_pos hkey)
    have hblank : view.volumes.find? key = none ↔ namesNoBlank := by
      subst hkey
      have hiff := find?_blank_eq_none_iff snapshot.volumes
      exact ⟨fun hnone _ => hiff.mp hnone, fun hnames => hiff.mpr (hnames rfl)⟩
    rw [hkept, ← hblank]
    cases view.volumes.find? key with
    | none => simp
    | some found => simp
  · have hnamesNoBlank : namesNoBlank := fun h => absurd h hkey
    have hnone : view.volumes.find? key = none ↔ kept = [] :=
      find?_eq_none_iff_select snapshot.volumes hkey
    refine ⟨iff_of_true ?_ hnamesNoBlank, iff_of_true ?_ hnamesNoBlank,
      iff_of_true hnone hnamesNoBlank⟩
    · rw [Option.isSome_iff_ne_none, Ne, hnone]
    · intro found hfound
      have hlookUp : view.volumes.find? key = lookUp? volumeFields kept key :=
        find?_eq_lookUp?_select snapshot.volumes hkey
      exact mem_of_lookUp? (hlookUp.symm.trans hfound)

/-- A volume with the empty identifier. -/
def blankVolume : Snapshot :=
  { Snapshot.blank with volumes := [{ Volume.blank with name := "v" }] }

/-- The empty text leads to the volume, but it selects nothing. -/
theorem blankVolume_disagrees :
    let view := View.ofSnapshot blankVolume
    (view.volumes.find? "").map Volume.name = some "v" ∧
      (view.volumes.select [""]).items = [] ∧
      ¬ ((view.volumes.find? "").isSome ↔ (view.volumes.select [""]).items ≠ []) ∧
      ¬ (view.nodes.replicationInfoFor view.volumes "" = .error (.volumeNotFound "") ↔
        ∃ output, describeVolumes view ⟨.table, [""], false⟩ = .ok output ∧
          output.unmatched = some (.noMatch "")) := by
  have hblank : ¬ ("" = "" → ∀ volume ∈ blankVolume.volumes, volume.id ≠ "") := by decide
  obtain ⟨-, hsome, -, hnotFound⟩ := volume_lookup_agrees_iff blankVolume "" .table false
  exact ⟨by decide, by decide, mt hsome.mp hblank, mt hnotFound.mp hblank⟩

end StorageSurvey.Commands
