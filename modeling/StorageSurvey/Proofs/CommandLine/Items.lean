import Mathlib.Data.List.Nodup
import StorageSurvey.CommandLine.Reading
import StorageSurvey.Proofs.Except

/-!
# The items of a command line

A command line gives options, flags and identifiers, one item after the other.  Items are taken in
one by one, and each is put to what is given already.  All of them are taken in iff each can be read
by itself and none is an option that is given already; then what is given is what each of them gives
by itself, put together.  Of identifiers the order counts, but of options it does not.
-/

namespace StorageSurvey.CommandLine

/-- One thing that a command line gives. -/
inductive Item
  | valued (option : ValuedOption) (text : String)
  | flag (flag : Flag)
  | identifier (text : String)
  deriving DecidableEq

namespace Item

/-- The option that an item is, if it is one. -/
def switch? : Item → Option Switch
  | valued option _ => some (.valued option)
  | .flag raised => some (.flag raised)
  | identifier _ => none

def identifier? : Item → Option String
  | valued .. | .flag _ => none
  | identifier text => some text

end Item

/-! ## Options that are given -/

/-- Whether an option is among those given. -/
def Options.has (options : Options) : Switch → Bool
  | .valued .snapshot => options.snapshot.isSome
  | .valued .output => options.output.isSome
  | .valued .namespaceName => options.namespaceName.isSome
  | .valued .timeoutSeconds => options.timeoutSeconds.isSome
  | .valued .logLevel => options.logLevel.isSome
  | .flag .kube => options.kube.isSome
  | .flag .allNamespaces => options.allNamespaces.isSome
  | .flag .logJson => options.logJson.isSome
  | .flag .showLabels | .help | .version => false

def Given.has (given : Given) (switch : Switch) : Bool :=
  given.options.has switch || (given.showLabels && switch == .flag .showLabels)

/-- What is given first, and what is given after it. -/
def Given.join (first second : Given) : Given where
  options := second.options.orElse first.options
  showLabels := first.showLabels || second.showLabels
  identifiers := first.identifiers ++ second.identifiers

namespace Options

variable (first second third : Options)

theorem has_none (switch : Switch) : Options.none.has switch = false := by
  rcases switch with (_ | _) | (_ | _) | _ | _ <;> rfl

theorem has_orElse (switch : Switch) :
    (first.orElse second).has switch = (first.has switch || second.has switch) := by
  rcases switch with (_ | _) | (_ | _) | _ | _ <;> simp [has, orElse]

theorem none_orElse : Options.none.orElse first = first := rfl

theorem orElse_none : first.orElse .none = first := by
  simp [orElse, Options.none]

theorem orElse_assoc :
    (first.orElse second).orElse third = first.orElse (second.orElse third) := by
  simp [orElse, Option.or_assoc]

/-- The order of options does not matter if none is given twice. -/
theorem orElse_comm (hdisjoint : ∀ switch, first.has switch = true → second.has switch = false) :
    first.orElse second = second.orElse first := by
  have hfield {α : Type} {one other : Option α} (h : one.isSome = true → other.isSome = false) :
      one.or other = other.or one := by
    cases one <;> cases other <;> simp_all
  simp only [orElse, Option.orElse_eq_orElse, Option.orElse_eq_or, mk.injEq]
  exact ⟨hfield (hdisjoint (.valued .snapshot)), hfield (hdisjoint (.valued .output)),
    hfield (hdisjoint (.flag .kube)), hfield (hdisjoint (.valued .namespaceName)),
    hfield (hdisjoint (.flag .allNamespaces)), hfield (hdisjoint (.valued .timeoutSeconds)),
    hfield (hdisjoint (.valued .logLevel)), hfield (hdisjoint (.flag .logJson))⟩

end Options

namespace Given

theorem join_nothing (given : Given) : given.join nothing = given := by
  simp [join, nothing, Options.none_orElse]

theorem nothing_join (given : Given) : nothing.join given = given := by
  simp [join, nothing, Options.orElse_none]

theorem join_assoc (first second third : Given) :
    (first.join second).join third = first.join (second.join third) := by
  simp [join, Options.orElse_assoc, Bool.or_assoc]

theorem has_nothing (switch : Switch) : nothing.has switch = false := by
  simp [has, nothing, Options.has_none]

theorem has_join (first second : Given) (switch : Switch) :
    (first.join second).has switch = (first.has switch || second.has switch) := by
  simp only [has, join, Options.has_orElse]
  cases first.options.has switch <;> cases second.options.has switch <;> cases first.showLabels <;>
    cases second.showLabels <;> simp

end Given

/-! ## What an item gives -/

/-- The options that a flag gives. -/
def Flag.options : Flag → Options
  | .kube => { Options.none with kube := some true }
  | .allNamespaces => { Options.none with allNamespaces := some true }
  | .logJson => { Options.none with logJson := some true }
  | .showLabels => .none

namespace Item

/-- Whether the value of an option, if it has one, can be read. -/
def IsReadable : Item → Prop
  | valued option text => ∃ options, Options.none.assign option text = .ok options
  | .flag _ | identifier _ => True

/-- The options that an item gives; there are none if it cannot be read. -/
def options : Item → Options
  | valued option text => match Options.none.assign option text with
      | .ok options => options
      | .error _ => .none
  | .flag raised => raised.options
  | identifier _ => .none

def given (item : Item) : Given :=
  ⟨item.options, item = .flag .showLabels, item.identifier?.toList⟩

end Item

/-! ## Taking one option in -/

namespace Options

theorem once_of_isSome {α : Type} {old : Option α} (hold : old.isSome = true)
    (value : Except Stop α) : once old value = .error .argumentConflict :=
  if_pos hold

theorem once_of_isNone {α : Type} {old : Option α} (hold : old.isSome = false)
    (value : Except Stop α) : once old value = some <$> value :=
  if_neg (Bool.eq_false_iff.mp hold)

theorem once_none {α : Type} (value : Except Stop α) : once .none value = some <$> value := rfl

theorem exists_of_once {α : Type} {old result : Option α} {value : Except Stop α}
    (h : once old value = .ok result) : ∃ found, result = some found := by
  unfold once at h
  split at h
  · exact absurd h (error_ne_ok _ _)
  · cases value with
    | error _ => exact absurd h (error_ne_ok _ _)
    | ok found => exact ⟨found, (Except.ok.inj h).symm⟩

theorem assign_of_has {options : Options} {option : ValuedOption}
    (hhas : options.has (.valued option) = true) (text : String) :
    options.assign option text = .error .argumentConflict := by
  cases option with
  | snapshot | output | namespaceName | timeoutSeconds | logLevel =>
      unfold assign
      simp only [once_of_isSome hhas]
      rfl

/-- An option that is not given yet is taken in as if nothing were given, and put to the rest. -/
theorem assign_of_fresh {options : Options} {option : ValuedOption}
    (hfresh : options.has (.valued option) = false) (text : String) :
    options.assign option text = (·.orElse options) <$> Options.none.assign option text := by
  cases option with
  | snapshot | output | namespaceName | timeoutSeconds | logLevel =>
      simp only [assign, none, once_of_isNone hfresh, once_none, bind_map_left, map_bind, map_pure]
      rfl

/-- An option with a value gives itself and no other. -/
theorem has_of_assign {option : ValuedOption} {text : String} {options : Options}
    (h : Options.none.assign option text = .ok options) (switch : Switch) :
    options.has switch = decide (switch = .valued option) := by
  cases option with
  | snapshot | output | namespaceName | timeoutSeconds | logLevel =>
      obtain ⟨_, hvalue, ⟨⟩⟩ := bind_eq_ok_iff.mp h
      obtain ⟨_, rfl⟩ := exists_of_once hvalue
      rcases switch with (_ | _) | (_ | _) | _ | _ <;> rfl

end Options

namespace Given

variable {given : Given}

theorem assign_of_has {option : ValuedOption} (hhas : given.has (.valued option) = true)
    (text : String) : given.assign option text = .error .argumentConflict := by
  have hoption : given.options.has (.valued option) = true := by simpa [has] using hhas
  rw [assign, Options.assign_of_has hoption]
  rfl

theorem assign_of_fresh {option : ValuedOption} (hfresh : given.has (.valued option) = false)
    (text : String) :
    given.assign option text =
      (fun options => { given with options := options.orElse given.options }) <$>
        Options.none.assign option text := by
  have hoption : given.options.has (.valued option) = false := by simpa [has] using hfresh
  rw [assign, Options.assign_of_fresh hoption]
  cases Options.none.assign option text <;> rfl

theorem raise_of_has {flag : Flag} (hhas : given.has (.flag flag) = true) :
    given.raise flag = .error .argumentConflict := by
  cases flag with
  | kube | allNamespaces | logJson =>
      have hoption := by simpa [has, Options.has] using hhas
      simp only [raise, Options.once_of_isSome hoption]
      rfl
  | showLabels =>
      have hshown : given.showLabels = true := by simpa [has, Options.has] using hhas
      exact if_pos hshown

theorem raise_of_fresh {flag : Flag} (hfresh : given.has (.flag flag) = false) :
    given.raise flag = .ok (given.join (Item.flag flag).given) := by
  cases flag with
  | kube | allNamespaces | logJson =>
      have hoption := by simpa [has, Options.has] using hfresh
      simp only [raise, hoption]
      refine congrArg Except.ok ?_
      simp [join, Item.given, Item.identifier?, Item.options, Flag.options, Options.orElse,
        Options.none]
  | showLabels =>
      have hhidden : given.showLabels = false := by simpa [has, Options.has] using hfresh
      simp only [raise, hhidden]
      refine congrArg Except.ok ?_
      simp [join, Item.given, Item.identifier?, Item.options, Flag.options, Options.none_orElse]

/-- What is given, with one more item. -/
def take (given : Given) : Item → Except Stop Given
  | .valued option text => given.assign option text
  | .flag flag => given.raise flag
  | .identifier text => .ok (given.withIdentifier text)

/-- An item is taken in iff it can be read and is not an option that is given already. -/
theorem take_eq_ok_iff {item : Item} {result : Given} :
    given.take item = .ok result ↔
      item.IsReadable ∧ (∀ switch ∈ item.switch?, given.has switch = false) ∧
        given.join item.given = result := by
  cases item with
  | valued option text =>
      change given.assign option text = .ok result ↔ _
      cases hhas : given.has (.valued option) with
      | true => simp [assign_of_has hhas, Item.switch?, hhas]
      | false =>
          rw [assign_of_fresh hhas]
          simp only [Item.IsReadable, Item.switch?, join, Item.given, Item.options]
          cases Options.none.assign option text <;> simp [Item.identifier?, hhas]
  | flag raised =>
      change given.raise raised = .ok result ↔ _
      cases hhas : given.has (.flag raised) with
      | true => simp [raise_of_has hhas, Item.switch?, hhas]
      | false => simp [raise_of_fresh hhas, Item.IsReadable, Item.switch?, hhas]
  | identifier text =>
      change Except.ok (given.withIdentifier text) = .ok result ↔ _
      simp [withIdentifier, Item.IsReadable, Item.switch?, join, Item.given, Item.options,
        Item.identifier?, Options.none_orElse]

end Given

namespace Item

theorem has_given {item : Item} (hreadable : item.IsReadable) (switch : Switch) :
    item.given.has switch = true ↔ item.switch? = some switch := by
  cases item with
  | valued option text =>
      obtain ⟨options, hoptions⟩ := hreadable
      have hhas := Options.has_of_assign hoptions switch
      simp [given, Given.has, Item.options, hoptions, hhas, switch?, eq_comm]
  | flag raised => cases raised <;> rcases switch with (_ | _) | (_ | _) | _ | _ <;> decide
  | identifier text => simp [given, Given.has, Item.options, Options.has_none, switch?]

/-- An item gives no option but itself, whether it can be read or not. -/
theorem switch?_of_has_options {item : Item} {switch : Switch}
    (h : item.options.has switch = true) : item.switch? = some switch := by
  have hgiven : item.given.has switch = true := by
    simp [Given.has, given, h]
  cases item with
  | valued option text =>
      cases hread : Options.none.assign option text with
      | error stop =>
          have hnone : (valued option text).options = .none := by simp only [options, hread]
          rw [hnone, Options.has_none] at h
          cases h
      | ok found =>
          have hreadable : (valued option text).IsReadable := ⟨found, hread⟩
          exact (has_given hreadable switch).mp hgiven
  | flag raised =>
      have hreadable : (Item.flag raised).IsReadable := trivial
      exact (has_given hreadable switch).mp hgiven
  | identifier text =>
      have hreadable : (identifier text).IsReadable := trivial
      exact (has_given hreadable switch).mp hgiven

end Item

/-! ## What items give together -/

namespace Given

/-- What the items of a list give together. -/
def ofItems : List Item → Given
  | [] => nothing
  | item :: rest => item.given.join (ofItems rest)

theorem ofItems_append (items others : List Item) :
    ofItems (items ++ others) = (ofItems items).join (ofItems others) := by
  induction items with
  | nil => exact (nothing_join _).symm
  | cons item rest ih =>
      change item.given.join (ofItems (rest ++ others)) =
        (item.given.join (ofItems rest)).join (ofItems others)
      rw [ih, join_assoc]

theorem identifiers_ofItems (items : List Item) :
    (ofItems items).identifiers = items.filterMap Item.identifier? := by
  induction items with
  | nil => rfl
  | cons item rest ih =>
      change item.identifier?.toList ++ (ofItems rest).identifiers = _
      rw [ih, List.filterMap_cons]
      cases item.identifier? <;> rfl

theorem showLabels_ofItems (items : List Item) :
    (ofItems items).showLabels = true ↔ .flag .showLabels ∈ items := by
  induction items with
  | nil => simp [ofItems, nothing]
  | cons item rest ih =>
      change (decide (item = .flag .showLabels) || (ofItems rest).showLabels) = true ↔ _
      rw [Bool.or_eq_true, decide_eq_true_iff, ih, List.mem_cons, eq_comm]

/-- The order of items does not matter to the options that they give, if none is given twice. -/
theorem options_ofItems_of_perm {items others : List Item} (hperm : items.Perm others)
    (hnodup : (items.filterMap Item.switch?).Nodup) :
    (ofItems items).options = (ofItems others).options := by
  induction hperm with
  | nil => rfl
  | cons item _ ih =>
      change (ofItems _).options.orElse item.options = (ofItems _).options.orElse item.options
      rw [ih (hnodup.sublist ((List.sublist_cons_self item _).filterMap _))]
  | swap first second rest =>
      have hdisjoint : ∀ switch, first.options.has switch = true →
          second.options.has switch = false := by
        intro switch hfirst
        by_contra hsecond
        rw [Bool.not_eq_false] at hsecond
        rw [List.filterMap_cons_some (Item.switch?_of_has_options hsecond),
          List.filterMap_cons_some (Item.switch?_of_has_options hfirst)] at hnodup
        exact (List.nodup_cons.mp hnodup).1 List.mem_cons_self
      change ((ofItems rest).options.orElse first.options).orElse second.options =
        ((ofItems rest).options.orElse second.options).orElse first.options
      rw [Options.orElse_assoc, Options.orElse_assoc, Options.orElse_comm _ _ hdisjoint]
  | trans hfirst _ ihfirst ihsecond =>
      exact (ihfirst hnodup).trans (ihsecond ((hfirst.filterMap _).nodup_iff.mp hnodup))

end Given

/-! ## Taking items in -/

theorem forall_mem_filterMap_cons {α β : Type} {f : α → Option β} {a : α} {l : List α}
    {p : β → Prop} :
    (∀ b ∈ (a :: l).filterMap f, p b) ↔ (∀ b ∈ f a, p b) ∧ ∀ b ∈ l.filterMap f, p b := by
  cases h : f a with
  | none => simp [List.filterMap_cons_none h]
  | some b => simp [List.filterMap_cons_some h]

theorem nodup_filterMap_cons {α β : Type} {f : α → Option β} {a : α} {l : List α} :
    ((a :: l).filterMap f).Nodup ↔
      (∀ b ∈ l.filterMap f, f a ≠ some b) ∧ (l.filterMap f).Nodup := by
  cases h : f a with
  | none => simp [List.filterMap_cons_none h]
  | some b =>
      rw [List.filterMap_cons_some h, List.nodup_cons]
      refine and_congr_left fun _ => ?_
      simp only [ne_eq, Option.some.injEq]
      exact ⟨fun hnot c hc heq => hnot (heq ▸ hc), fun hne hmem => hne b hmem rfl⟩

namespace Given

/-- What is given, with the items of a list one after the other. -/
def takeAll (given : Given) (items : List Item) : Except Stop Given :=
  items.foldlM take given

theorem takeAll_singleton (given : Given) (item : Item) :
    given.takeAll [item] = given.take item :=
  bind_pure (given.take item)

theorem takeAll_append (given : Given) (items others : List Item) :
    given.takeAll (items ++ others) = given.takeAll items >>= (·.takeAll others) :=
  List.foldlM_append

/-- Items are taken in iff each can be read and none is an option that is given already. -/
theorem takeAll_eq_ok_iff {given result : Given} {items : List Item} :
    given.takeAll items = .ok result ↔
      (∀ item ∈ items, item.IsReadable) ∧ (items.filterMap Item.switch?).Nodup ∧
        (∀ switch ∈ items.filterMap Item.switch?, given.has switch = false) ∧
          given.join (ofItems items) = result := by
  induction items generalizing given with
  | nil =>
      change Except.ok given = .ok result ↔ _
      simp [ofItems, join_nothing]
  | cons item rest ih =>
      change given.take item >>= (·.takeAll rest) = .ok result ↔ _
      have hnext (hreadable : item.IsReadable) (switch : Switch) :
          (given.join item.given).has switch = false ↔
            given.has switch = false ∧ item.switch? ≠ some switch := by
        rw [has_join, Bool.or_eq_false_iff, ← Bool.not_eq_true (item.given.has switch),
          Item.has_given hreadable]
      simp only [bind_eq_ok_iff, take_eq_ok_iff, ih, List.forall_mem_cons,
        forall_mem_filterMap_cons, nodup_filterMap_cons]
      constructor
      · rintro ⟨_, ⟨hreadable, hfresh, rfl⟩, hreadables, hnodup, hfreshes, hresult⟩
        simp only [hnext hreadable] at hfreshes
        exact ⟨⟨hreadable, hreadables⟩, ⟨fun switch hmem => (hfreshes switch hmem).2, hnodup⟩,
          ⟨hfresh, fun switch hmem => (hfreshes switch hmem).1⟩,
          (join_assoc _ _ _).symm.trans hresult⟩
      · rintro ⟨⟨hreadable, hreadables⟩, ⟨hne, hnodup⟩, ⟨hfresh, hfreshes⟩, hresult⟩
        refine ⟨_, ⟨hreadable, hfresh, rfl⟩, hreadables, hnodup, ?_,
          (join_assoc _ _ _).trans hresult⟩
        intro switch hmem
        exact (hnext hreadable switch).mpr ⟨hfreshes switch hmem, hne switch hmem⟩

/-- From nothing, items are taken in iff each can be read and none is an option twice. -/
theorem takeAll_nothing_eq_ok_iff {items : List Item} {result : Given} :
    nothing.takeAll items = .ok result ↔
      (∀ item ∈ items, item.IsReadable) ∧ (items.filterMap Item.switch?).Nodup ∧
        ofItems items = result := by
  simp only [takeAll_eq_ok_iff, has_nothing, implies_true, true_and, nothing_join]

/-- The options that are given are those among the items. -/
theorem has_ofItems {items : List Item} (hreadable : ∀ item ∈ items, item.IsReadable)
    (switch : Switch) :
    (ofItems items).has switch = true ↔ switch ∈ items.filterMap Item.switch? := by
  induction items with
  | nil => simp [ofItems, has_nothing]
  | cons item rest ih =>
      rw [List.forall_mem_cons] at hreadable
      change (item.given.join (ofItems rest)).has switch = true ↔ _
      rw [has_join, Bool.or_eq_true, Item.has_given hreadable.1, ih hreadable.2]
      simp only [List.mem_filterMap, List.mem_cons, exists_eq_or_imp]

/-- Options of which none is given twice are not given in two places. -/
theorem disjoint_of_nodup {items others : List Item}
    (honce : ((items ++ others).filterMap Item.switch?).Nodup)
    (hitems : ∀ item ∈ items, item.IsReadable) (hothers : ∀ item ∈ others, item.IsReadable) :
    ∀ switch, (ofItems items).options.has switch = true →
      (ofItems others).options.has switch = false := by
  intro switch hfirst
  by_contra hsecond
  rw [Bool.not_eq_false] at hsecond
  have hmem : switch ∈ items.filterMap Item.switch? :=
    (has_ofItems hitems switch).mp (Bool.or_eq_true_iff.mpr (.inl hfirst))
  have hother : switch ∈ others.filterMap Item.switch? :=
    (has_ofItems hothers switch).mp (Bool.or_eq_true_iff.mpr (.inl hsecond))
  rw [List.filterMap_append] at honce
  exact List.disjoint_of_nodup_append honce hmem hother

end Given

end StorageSurvey.CommandLine
