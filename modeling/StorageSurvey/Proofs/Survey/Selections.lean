import Mathlib.Tactic.Tauto
import StorageSurvey.Survey.Selection

/-!
# What a selection keeps and what it reports

A selection passes over the items once and marks identifiers on its way.  What it keeps is the
sublist of the items that some identifier names, and what it reports are the identifiers that name
nothing, in the order in which they were given.  Both can be said without the marks; and since an
item that is named is kept, what is reported follows from the items that are kept.
-/

namespace StorageSurvey.Survey

variable {α : Type} {named : α → String → Bool}

/-- Whether an item is wanted: one of the identifiers names it, or there are no identifiers. -/
def isWanted (named : α → String → Bool) (identifiers : List String) (item : α) : Bool :=
  identifiers.isEmpty || identifiers.any (named item)

theorem isWanted_of_ne_nil {identifiers : List String} (hne : identifiers ≠ []) (item : α) :
    isWanted named identifiers item = identifiers.any (named item) := by
  rw [isWanted, List.isEmpty_eq_false_iff.mpr hne, Bool.false_or]

/-- The failure for the first identifier that names none of the items. -/
def missing? (named : α → String → Bool) (identifiers : List String) (items : List α) :
    Option Failure :=
  (identifiers.find? fun identifier => !items.any (named · identifier)).map .noMatch

/-! ## Sifting -/

theorem items_sift (marked : List (String × Bool)) (items : List α) :
    (sift named marked items).items =
      items.filter fun item => (marked.map (·.1)).any (named item) := by
  induction items generalizing marked with
  | nil => rfl
  | cons item items ih =>
      have hnames : (marked.map fun mark => (mark.1, mark.2 || named item mark.1)).map (·.1) =
          marked.map (·.1) := by simp
      have hany : (marked.any fun mark => named item mark.1) =
          (marked.map (·.1)).any (named item) := by simp [List.any_map, Function.comp_def]
      simp only [sift, List.filter_cons, hany]
      split
      · exact congrArg (item :: ·) (by rw [ih, hnames])
      · rw [ih, hnames]

/-- A mark that is set stays set, and one that is not is set by the first item that is named. -/
theorem unmatched_sift (marked : List (String × Bool)) (items : List α) :
    (sift named marked items).unmatched =
      (marked.filter fun mark => !(mark.2 || items.any (named · mark.1))).map (·.1) := by
  induction items generalizing marked with
  | nil => simp [sift]
  | cons item items ih =>
      have hrest : (sift named (marked.map fun mark => (mark.1, mark.2 || named item mark.1))
          items).unmatched =
          (marked.filter fun mark => !(mark.2 || (item :: items).any (named · mark.1))).map
            (·.1) := by
        rw [ih, List.filter_map, List.map_map]
        simp [Function.comp_def, Bool.and_assoc]
      simp only [sift]
      split
      · exact hrest
      · exact hrest

/-! ## Selecting -/

theorem items_select (identifiers : List String) (items : List α) :
    (select named identifiers items).items = items.filter (isWanted named identifiers) := by
  cases identifiers with
  | nil => exact (List.filter_eq_self.mpr fun _ _ => rfl).symm
  | cons first rest =>
      simp only [select, List.isEmpty_cons, Bool.false_eq_true, if_false]
      rw [items_sift, List.map_map]
      exact List.filter_congr fun item _ => by simp [isWanted, Function.comp_def]

theorem unmatched_select (identifiers : List String) (items : List α) :
    (select named identifiers items).unmatched =
      identifiers.filter fun identifier => !items.any (named · identifier) := by
  cases identifiers with
  | nil => simp [select]
  | cons first rest =>
      simp only [select, List.isEmpty_cons, Bool.false_eq_true, if_false]
      rw [unmatched_sift, List.filter_map, List.map_map]
      simp [Function.comp_def]

theorem missing?_eq_head? (identifiers : List String) (items : List α) :
    missing? named identifiers items =
      (identifiers.filter fun identifier =>
        !items.any (named · identifier)).head?.map .noMatch := by
  rw [missing?, List.head?_filter]

theorem failure?_select (identifiers : List String) (items : List α) :
    (select named identifiers items).failure? = missing? named identifiers items := by
  rw [Selection.failure?, unmatched_select, missing?_eq_head?]

/-- An identifier names one of the items exactly if it names one of those that are kept. -/
theorem any_filter_isWanted {identifiers : List String} {identifier : String}
    (hmem : identifier ∈ identifiers) (items : List α) :
    (items.filter (isWanted named identifiers)).any (named · identifier) =
      items.any (named · identifier) := by
  have hwanted : ∀ item, named item identifier = true → isWanted named identifiers item = true :=
    fun item hnamed => by
      rw [isWanted, Bool.or_eq_true]
      exact .inr (List.any_eq_true.mpr ⟨identifier, hmem, hnamed⟩)
  rw [List.any_filter]
  congr 1
  funext item
  cases hnamed : named item identifier with
  | false => rw [Bool.and_false]
  | true => rw [hwanted item hnamed, Bool.and_true]

theorem filter_any_filter_isWanted (identifiers : List String) (items : List α) :
    (identifiers.filter fun identifier =>
        !(items.filter (isWanted named identifiers)).any (named · identifier)) =
      identifiers.filter fun identifier => !items.any (named · identifier) := by
  refine List.filter_congr fun identifier hmem => ?_
  rw [any_filter_isWanted hmem]

/-- What is reported follows from the items that are kept. -/
theorem missing?_filter_isWanted (identifiers : List String) (items : List α) :
    missing? named identifiers (items.filter (isWanted named identifiers)) =
      missing? named identifiers items := by
  rw [missing?_eq_head?, missing?_eq_head?, filter_any_filter_isWanted]

/-! ## Identifiers that name nothing -/

/-- What is wanted depends on which identifiers there are, not on their order or number. -/
theorem isWanted_congr {first second : List String}
    (hsame : ∀ identifier, identifier ∈ first ↔ identifier ∈ second) (item : α) :
    isWanted named first item = isWanted named second item := by
  have hempty : first = [] ↔ second = [] := by
    simp only [List.eq_nil_iff_forall_not_mem, hsame]
  rw [Bool.eq_iff_iff]
  simp only [isWanted, Bool.or_eq_true, List.isEmpty_iff, List.any_eq_true, hempty, hsame]

theorem isWanted_append {first second : List String} (hfirst : first ≠ []) (hsecond : second ≠ [])
    (item : α) :
    isWanted named (first ++ second) item =
      (isWanted named first item || isWanted named second item) := by
  rw [isWanted_of_ne_nil (List.append_ne_nil_of_left_ne_nil hfirst second),
    isWanted_of_ne_nil hfirst, isWanted_of_ne_nil hsecond, List.any_append]

theorem mem_items_select_iff {identifiers : List String} {items : List α} {item : α} :
    item ∈ (select named identifiers items).items ↔
      item ∈ items ∧ isWanted named identifiers item = true := by
  rw [items_select, List.mem_filter]

/-- A second selection finds nothing more to leave out, and nothing more to report. -/
theorem select_items_select (identifiers : List String) (items : List α) :
    select named identifiers (select named identifiers items).items =
      select named identifiers items := by
  have hitems : (select named identifiers (select named identifiers items).items).items =
      (select named identifiers items).items := by
    rw [items_select, items_select, List.filter_filter]
    simp only [Bool.and_self]
  have hunmatched : (select named identifiers (select named identifiers items).items).unmatched =
      (select named identifiers items).unmatched := by
    rw [unmatched_select, unmatched_select, items_select, filter_any_filter_isWanted]
  exact congrArg₂ Selection.mk hitems hunmatched

/-- With identifiers, a selection keeps the items that one of them names, in their order, and
reports the identifiers that name none; without identifiers it keeps everything.  So the order of
the identifiers and their repetitions make no difference to what is kept, two lists of identifiers
keep together what either of them keeps, and a selection from what is kept changes nothing. -/
theorem select_laws (named : α → String → Bool) (items : List α) :
    select named [] items = ⟨items, []⟩ ∧
      (∀ identifiers, identifiers ≠ [] →
        (select named identifiers items).items =
            items.filter (fun item => identifiers.any (named item)) ∧
          (select named identifiers items).unmatched =
            identifiers.filter fun identifier => !items.any (named · identifier)) ∧
      (∀ first second, (∀ identifier, identifier ∈ first ↔ identifier ∈ second) →
        (select named first items).items = (select named second items).items) ∧
      (∀ first second, first ≠ [] → second ≠ [] →
        (select named (first ++ second) items).items =
            items.filter (fun item => first.any (named item) || second.any (named item)) ∧
          ∀ item, item ∈ (select named (first ++ second) items).items ↔
            item ∈ (select named first items).items ∨ item ∈ (select named second items).items) ∧
      ∀ identifiers, select named identifiers (select named identifiers items).items =
        select named identifiers items := by
  refine ⟨rfl, ?_, ?_, ?_, ?_⟩
  · intro identifiers hne
    refine ⟨?_, unmatched_select identifiers items⟩
    rw [items_select, funext (isWanted_of_ne_nil hne)]
  · intro first second hsame
    rw [items_select, items_select, funext (isWanted_congr hsame)]
  · intro first second hfirst hsecond
    refine ⟨?_, fun item => ?_⟩
    · rw [items_select]
      refine List.filter_congr fun item _ => ?_
      rw [isWanted_append hfirst hsecond, isWanted_of_ne_nil hfirst, isWanted_of_ne_nil hsecond]
    · simp only [mem_items_select_iff, isWanted_append hfirst hsecond, Bool.or_eq_true, and_or_left]
  · intro identifiers
    exact select_items_select identifiers items

/-- Three items with the texts by which they are named. -/
def taggedItems : List (List String) :=
  [["a", "x"], ["b"], ["c", "x"]]

/-- Two items are named, one of them by two identifiers; the identifier that names nothing is
reported as often as it is given. -/
theorem taggedItems_selected :
    (select List.contains ["x", "z", "a", "z"] taggedItems).items = [["a", "x"], ["c", "x"]] ∧
      (select List.contains ["x", "z", "a", "z"] taggedItems).unmatched = ["z", "z"] ∧
      (select List.contains ["a", "x", "z", "x"] taggedItems).items =
        (select List.contains ["x", "z", "a", "z"] taggedItems).items ∧
      ["b"] ∈ (select List.contains (["x", "z"] ++ ["b"]) taggedItems).items := by
  obtain ⟨-, hkept, hsame, hunion, -⟩ := select_laws List.contains taggedItems
  obtain ⟨hitems, hunmatched⟩ := hkept ["x", "z", "a", "z"] (by decide)
  refine ⟨hitems.trans (by decide), hunmatched.trans (by decide), ?_, ?_⟩
  · apply hsame
    intro identifier
    simp only [List.mem_cons, List.not_mem_nil, or_false]
    tauto
  · apply ((hunion ["x", "z"] ["b"] (by decide) (by decide)).2 ["b"]).mpr
    exact .inr (by decide)

end StorageSurvey.Survey
