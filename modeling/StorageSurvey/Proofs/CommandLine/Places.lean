import StorageSurvey.Proofs.CommandLine.Spelling

/-!
# The three places of a command line

In all three places, names and letters are told apart from hyphens and equals signs, provided that
no group and no command has a name that begins with a hyphen.  Before the command there are neither
identifiers nor labels to show.
-/

namespace StorageSurvey.CommandLine

open StorageSurvey.Commands

/-! ## Names and letters -/

/-- Whether no name of a registry begins with a hyphen. -/
def HasPlainNames (registry : Registry) : Prop :=
  (∀ group ∈ registry.groups, Unhyphenated group) ∧
    ∀ command ∈ registry.commands, ∀ name ∈ command.names, Unhyphenated name

theorem programOption?_regular {name : String} {switch : Switch}
    (h : programOption? name = some switch) : name.toList ≠ [] ∧ '=' ∉ name.toList := by
  unfold programOption? at h
  split at h
  all_goals first | decide | cases h

namespace Interface

variable {interface : Interface}

theorem long?_regular {name : String} {switch : Switch} (h : interface.long? name = some switch) :
    name.toList ≠ [] ∧ '=' ∉ name.toList := by
  unfold long? at h
  split at h
  next hhelp =>
    rw [hhelp]
    decide
  next =>
    split at h
    · exact programOption?_regular h
    · cases h

theorem short?_hyphen : interface.short? '-' = none := by
  unfold short?
  cases interface.hasOptions <;> rfl

theorem long?_ne_showLabels (name : String) : interface.long? name ≠ some (.flag .showLabels) := by
  unfold long? programOption?
  split
  · decide
  · split
    · split <;> decide
    · decide

theorem short?_ne_showLabels (letter : Char) :
    interface.short? letter ≠ some (.flag .showLabels) := by
  unfold short? programLetter?
  split
  · decide
  · split
    · split <;> decide
    · decide

theorem isRegular_groupsPlace (hnames : HasPlainNames interface.registry) :
    interface.groupsPlace.IsRegular where
  name_regular name switch h := by
    change (if name = "version" ∧ interface.hasOptions then some .version
      else interface.long? name) = some switch at h
    split at h
    next hversion =>
      rw [hversion.1]
      decide
    next => exact long?_regular h
  short_hyphen := short?_hyphen
  below_hyphenated word hword := by
    refine List.find?_eq_none.mpr ?_
    intro group hgroup heq
    rw [beq_iff_eq] at heq
    exact hword (heq ▸ hnames.1 group hgroup)
  nothing_below h := nomatch h

theorem isRegular_groupPlace (hnames : HasPlainNames interface.registry) (group : String) :
    (interface.groupPlace group).IsRegular where
  name_regular _ _ h := long?_regular h
  short_hyphen := short?_hyphen
  below_hyphenated word hword := by
    refine List.find?_eq_none.mpr ?_
    intro command hcommand hanswers
    rw [Bool.and_eq_true] at hanswers
    exact hword (hnames.2 command hcommand word (List.contains_iff_mem.mp hanswers.2))
  nothing_below h := nomatch h

theorem isRegular_commandPlace (command : Command) :
    (interface.commandPlace command).IsRegular where
  name_regular name switch h := by
    change (if name = "show-labels" ∧ command.parameters.showLabels then
      some (.flag .showLabels) else interface.long? name) = some switch at h
    split at h
    next hshow =>
      rw [hshow.1]
      decide
    next => exact long?_regular h
  short_hyphen := short?_hyphen
  below_hyphenated _ _ := rfl
  nothing_below _ := ⟨rfl, fun _ => rfl⟩

theorem below?_groupsPlace {group : String} (h : group ∈ interface.registry.groups) :
    interface.groupsPlace.below? group = some group := by
  change interface.registry.groups.find? (· == group) = some group
  cases hfind : interface.registry.groups.find? (· == group) with
  | none => exact absurd (beq_self_eq_true group) (List.find?_eq_none.mp hfind group h)
  | some found =>
      have hfound := List.find?_some hfind
      rw [beq_iff_eq] at hfound
      rw [hfound]

end Interface

/-! ## Items before the command -/

/-- Whether items are options of the program. -/
def AreProgramOptions (items : List Item) : Prop :=
  items.filterMap Item.identifier? = [] ∧ .flag .showLabels ∉ items

/-- Where no identifiers are taken and no labels are known, only options of the program are. -/
theorem Spells.areProgramOptions {α : Type} {place : Place α} {words : List String}
    {items : List Item} (h : Spells place words items)
    (htakes : place.takesIdentifiers = false)
    (hlong : ∀ name, place.long? name ≠ some (.flag .showLabels))
    (hshort : ∀ letter, place.short? letter ≠ some (.flag .showLabels)) :
    AreProgramOptions items := by
  constructor
  · refine List.filterMap_eq_nil_iff.mpr ?_
    intro item hitem
    have hallows := h.allows item hitem
    cases item with
    | valued _ _ | flag _ => rfl
    | identifier _ => exact nomatch htakes.symm.trans hallows
  · intro hmem
    rcases h.allows _ hmem with ⟨name, hname⟩ | ⟨letter, hletter⟩
    · exact hlong name hname
    · exact hshort letter hletter

theorem areProgramOptions_groups {interface : Interface} {words : List String}
    {items : List Item} (h : Spells interface.groupsPlace words items) :
    AreProgramOptions items := by
  refine h.areProgramOptions rfl ?_ ?_
  · intro name
    change (if name = "version" ∧ interface.hasOptions then some .version
      else interface.long? name) ≠ _
    split
    · decide
    · exact Interface.long?_ne_showLabels name
  · intro letter
    change (if letter = 'V' ∧ interface.hasOptions then some .version
      else interface.short? letter) ≠ _
    split
    · decide
    · exact Interface.short?_ne_showLabels letter

theorem areProgramOptions_group {interface : Interface} {group : String} {words : List String}
    {items : List Item} (h : Spells (interface.groupPlace group) words items) :
    AreProgramOptions items :=
  h.areProgramOptions rfl Interface.long?_ne_showLabels Interface.short?_ne_showLabels

end StorageSurvey.CommandLine
