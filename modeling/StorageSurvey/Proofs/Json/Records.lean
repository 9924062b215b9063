import Mathlib.Data.List.Nodup
import Mathlib.Tactic.MkIffOfInductiveProp
import StorageSurvey.Proofs.Json.Kinds

/-!
# Records by their rules

The reader of a record goes through the entries of a table in their order and sets one field after
the other.  If each field sets what its rule says and leaves the rest of the record alone, what has
been read can be told for each rule by itself, whatever the order was: the field is as before where
it is not written, and has its value where it is written once.  One entry keeps this up, and so the
reader takes exactly the tables of which every rule allows the record.
-/

namespace StorageSurvey.Json

open StorageSurvey.Document

variable {ρ : Type}

/-! ## Shapes and rules -/

/-- Whether `set` sets what a rule says in a record, and nothing that another rule is about. -/
@[mk_iff]
structure Rule.Sets (rule : Rule ρ) (rules : List (Rule ρ)) (blank : ρ)
    (set : rule.α → ρ → ρ) : Prop where
  get_set : ∀ value record, rule.get (set value record) = value
  get_other : ∀ other ∈ rules, other.name ≠ rule.name →
    ∀ value record, other.get (set value record) = other.get record
  get_blank : ∀ value ∈ rule.default?, rule.get blank = value

/-- Whether a field of a shape is what a rule says. -/
inductive Rule.Shapes (rules : List (Rule ρ)) (blank : ρ) (rule : Rule ρ) :
    Field Scalar (Except Fault) ρ → Prop
  | of {read : Reader Scalar (Except Fault) rule.α} {set : rule.α → ρ → ρ}
      (hread : Follows read rule.kind) (hset : rule.Sets rules blank set) :
      Shapes rules blank rule (.of rule.name rule.default?.isNone read set)

/-- Whether a shape has a field for each rule, and its records nothing else. -/
structure Obeys (shape : Shape Scalar (Except Fault) ρ) (rules : List (Rule ρ)) : Prop where
  nodup : (rules.map Rule.name).Nodup
  ext : ∀ first second, (∀ rule ∈ rules, rule.get first = rule.get second) → first = second
  shapes : List.Forall₂ (Rule.Shapes rules shape.blank) rules shape.fields

theorem exists_left_of_forall₂ {α β : Type*} {R : α → β → Prop} {as : List α} {bs : List β}
    (h : List.Forall₂ R as bs) {b : β} (hb : b ∈ bs) : ∃ a ∈ as, R a b := by
  induction h with
  | nil => cases hb
  | cons hfirst _ ih =>
      rcases List.mem_cons.mp hb with rfl | hb
      · exact ⟨_, List.mem_cons_self, hfirst⟩
      · obtain ⟨a, ha, hR⟩ := ih hb
        exact ⟨a, List.mem_cons_of_mem _ ha, hR⟩

section

variable {shape : Shape Scalar (Except Fault) ρ} {rules : List (Rule ρ)}

theorem Obeys.eq_of_name_eq (h : Obeys shape rules) {first second : Rule ρ} (hfirst : first ∈ rules)
    (hsecond : second ∈ rules) (hname : first.name = second.name) : first = second :=
  List.inj_on_of_nodup_map h.nodup hfirst hsecond hname

/-- A field has the name of its rule. -/
theorem Obeys.exists_rule (h : Obeys shape rules) {field : Field Scalar (Except Fault) ρ}
    (hfield : field ∈ shape.fields) :
    ∃ rule ∈ rules, Rule.Shapes rules shape.blank rule field :=
  exists_left_of_forall₂ h.shapes hfield

theorem Obeys.exists_field (h : Obeys shape rules) {rule : Rule ρ} (hrule : rule ∈ rules) :
    ∃ field ∈ shape.fields, Rule.Shapes rules shape.blank rule field :=
  exists_left_of_forall₂ h.shapes.flip hrule

theorem valuesOf_cons_of_ne {name other : String} (h : name ≠ other) (value : Literal)
    (entries : List (String × Literal)) :
    valuesOf other ((name, value) :: entries) = valuesOf other entries := by
  rw [valuesOf, List.filter_cons_of_neg (by simpa using h), valuesOf]

theorem valuesOf_cons_self (name : String) (value : Literal) (entries : List (String × Literal)) :
    valuesOf name ((name, value) :: entries) = value :: valuesOf name entries := by
  rw [valuesOf, List.filter_cons_of_pos (by simp), valuesOf, List.map_cons]

theorem valuesOf_subset_cons (name : String) (entry : String × Literal)
    (entries : List (String × Literal)) :
    valuesOf name entries ⊆ valuesOf name (entry :: entries) :=
  (((List.sublist_cons_self entry entries).filter _).map _).subset

theorem valuesOf_eq_nil_iff (name : String) (entries : List (String × Literal)) :
    valuesOf name entries = [] ↔ name ∉ entries.map (·.1) := by
  rw [valuesOf, List.map_eq_nil_iff, List.filter_eq_nil_iff, List.mem_map]
  simp only [beq_iff_eq, not_exists, not_and]

/-! ## One entry after the other -/

/-- What holds of a field after entries have been read into a record: it is as before where it is
not written, and has the value that is written if it was not seen before. -/
def Rule.Fills (rule : Rule ρ) (seen : List String) (before : ρ) (written : List Literal)
    (after : ρ) : Prop :=
  match written with
  | [] => rule.get after = rule.get before
  | [value] => rule.name ∉ seen ∧ rule.kind.Means value (rule.get after)
  | _ => False

theorem Rule.fills_cons (rule : Rule ρ) (seen : List String) (before : ρ) (value : Literal)
    (written : List Literal) (after : ρ) :
    rule.Fills seen before (value :: written) after ↔
      rule.name ∉ seen ∧ written = [] ∧ rule.kind.Means value (rule.get after) := by
  cases written with
  | nil => simp [Fills]
  | cons other written => simp [Fills]

/-- A field that was seen before must not be written again. -/
theorem Rule.fills_of_mem {rule : Rule ρ} {seen : List String} (hseen : rule.name ∈ seen)
    (before : ρ) (written : List Literal) (after : ρ) :
    rule.Fills seen before written after ↔ written = [] ∧ rule.get after = rule.get before := by
  cases written with
  | nil => simp [Fills]
  | cons value written => simp [fills_cons, hseen]

theorem Rule.fills_congr {rule : Rule ρ} {seen seen' : List String} {before before' : ρ}
    (hseen : rule.name ∈ seen ↔ rule.name ∈ seen') (hbefore : rule.get before = rule.get before')
    (written : List Literal) (after : ρ) :
    rule.Fills seen before written after ↔ rule.Fills seen' before' written after := by
  cases written with
  | nil => rw [Fills, Fills, hbefore]
  | cons value written => rw [fills_cons, fills_cons, hseen]

/-- Reading one value into a field is right for every rule if it is right for the field's own. -/
theorem Obeys.fills_entry_iff (h : Obeys shape rules) {rule : Rule ρ} (hrule : rule ∈ rules)
    {set : rule.α → ρ → ρ} (hset : rule.Sets rules shape.blank set) (seen : List String) (draft : ρ)
    (value : Literal) (entries : List (String × Literal)) (after : ρ) :
    (∀ other ∈ rules,
        other.Fills seen draft (valuesOf other.name ((rule.name, value) :: entries)) after) ↔
      rule.name ∉ seen ∧ ∃ content, rule.kind.Means value content ∧
        ∀ other ∈ rules, other.Fills (rule.name :: seen) (set content draft)
          (valuesOf other.name entries) after := by
  have hother : ∀ content, ∀ other ∈ rules, other.name ≠ rule.name →
      (other.Fills seen draft (valuesOf other.name ((rule.name, value) :: entries)) after ↔
        other.Fills (rule.name :: seen) (set content draft) (valuesOf other.name entries)
          after) := by
    intro content other hmem hne
    rw [valuesOf_cons_of_ne (Ne.symm hne)]
    refine Rule.fills_congr ?_ (hset.get_other other hmem hne content draft).symm _ _
    rw [List.mem_cons, or_iff_right hne]
  constructor
  · intro hfills
    have hown := hfills rule hrule
    rw [valuesOf_cons_self, Rule.fills_cons] at hown
    obtain ⟨hfresh, hlast, hmeans⟩ := hown
    refine ⟨hfresh, rule.get after, hmeans, fun other hmem => ?_⟩
    by_cases hname : other.name = rule.name
    · rw [h.eq_of_name_eq hmem hrule hname, Rule.fills_of_mem List.mem_cons_self,
        hset.get_set]
      exact ⟨hlast, rfl⟩
    · exact (hother _ other hmem hname).mp (hfills other hmem)
  · rintro ⟨hfresh, content, hmeans, hfills⟩ other hmem
    by_cases hname : other.name = rule.name
    · have hown := hfills rule hrule
      rw [Rule.fills_of_mem List.mem_cons_self, hset.get_set] at hown
      rw [h.eq_of_name_eq hmem hrule hname, valuesOf_cons_self, Rule.fills_cons]
      exact ⟨hfresh, hown.1, hown.2 ▸ hmeans⟩
    · exact (hother _ other hmem hname).mpr (hfills other hmem)

/-- The names of entries that are fields of a record, the last one first. -/
def fieldNames (shape : Shape Scalar (Except Fault) ρ) (entries : List (String × Literal)) :
    List String :=
  ((entries.map (·.1)).filter fun name => shape.fields.any (·.name == name)).reverse

theorem fieldNames_cons (shape : Shape Scalar (Except Fault) ρ) (name : String) (value : Literal)
    (entries : List (String × Literal)) :
    fieldNames shape ((name, value) :: entries) =
      fieldNames shape entries ++ if shape.fields.any (·.name == name) then [name] else [] := by
  rw [fieldNames, List.map_cons, List.filter_cons]
  split
  · rw [List.reverse_cons, fieldNames]
  · rw [List.append_nil, fieldNames]

/-- A name that no field of the record has is not the name of a rule. -/
theorem Obeys.valuesOf_cons_of_unknown (h : Obeys shape rules) {name : String}
    (hunknown : shape.fields.find? (·.name == name) = none) {rule : Rule ρ} (hrule : rule ∈ rules)
    (value : Literal) (entries : List (String × Literal)) :
    valuesOf rule.name ((name, value) :: entries) = valuesOf rule.name entries := by
  obtain ⟨_, hfield, ⟨-, -⟩⟩ := h.exists_field hrule
  have hother := List.find?_eq_none.mp hunknown _ hfield
  exact valuesOf_cons_of_ne (fun heq => hother (beq_iff_eq.mpr heq.symm)) value entries

theorem recordEntries_of_unknown {name : String}
    (hunknown : shape.fields.find? (·.name == name) = none) (value : Literal)
    (entries : List (String × Literal)) (path : Path) (draft : ρ) (seen : List String) :
    dialect.recordEntries shape path draft seen (entryTrees ((name, value) :: entries)) =
      dialect.recordEntries shape path draft seen (entryTrees entries) := by
  rw [entryTrees, Dialect.recordEntries, key_eq, pure_bind, hunknown]

/-- An entry for a field is taken if the field was not seen before and its reader takes the
value. -/
theorem recordEntries_eq_ok_iff_of_known {name : String} {field : Field Scalar (Except Fault) ρ}
    (hknown : shape.fields.find? (·.name == name) = some field) (value : Literal)
    (entries : List (String × Literal)) (path : Path) (draft : ρ) (seen : List String)
    (outcome : ρ × List String) :
    dialect.recordEntries shape path draft seen (entryTrees ((name, value) :: entries)) =
        .ok outcome ↔
      name ∉ seen ∧ ∃ set : ρ → ρ,
        field.read (path ++ [.field name]) value.tree = .ok set ∧
          dialect.recordEntries shape path (set draft) (name :: seen) (entryTrees entries) =
            .ok outcome := by
  rw [entryTrees, Dialect.recordEntries, key_eq, pure_bind, hknown]
  by_cases hseen : name ∈ seen
  · simp only [if_pos hseen]
    exact iff_of_false (error_ne_ok _ _) fun htaken => htaken.1 hseen
  · simp only [if_neg hseen, bind_eq_ok_iff]
    exact (and_iff_right hseen).symm

/-- Reading entries is right for every rule by itself, in whatever order they are. -/
theorem Obeys.recordEntries_eq_ok_iff (h : Obeys shape rules) (path : Path)
    {entries : List (String × Literal)}
    (hplain : ∀ rule ∈ rules, ∀ value ∈ valuesOf rule.name entries, rule.kind.Plain value)
    (draft : ρ) (seen : List String) (after : ρ) (seen' : List String) :
    dialect.recordEntries shape path draft seen (entryTrees entries) = .ok (after, seen') ↔
      seen' = fieldNames shape entries ++ seen ∧
        ∀ rule ∈ rules, rule.Fills seen draft (valuesOf rule.name entries) after := by
  induction entries generalizing draft seen with
  | nil =>
      rw [entryTrees, Dialect.recordEntries, pure_eq_ok_iff, Prod.mk.injEq, and_comm]
      refine and_congr eq_comm ⟨?_, fun hfills => h.ext _ _ fun rule hrule => ?_⟩
      · rintro rfl rule -
        rfl
      · exact (hfills rule hrule).symm
  | cons entry entries ih =>
      obtain ⟨name, value⟩ := entry
      have hrest := ih fun rule hrule value hvalue =>
        hplain rule hrule value (valuesOf_subset_cons _ _ _ hvalue)
      rw [fieldNames_cons]
      cases hfind : shape.fields.find? (·.name == name) with
      | none =>
          have hunknown : shape.fields.any (·.name == name) = false :=
            List.any_eq_false.mpr (List.find?_eq_none.mp hfind)
          rw [recordEntries_of_unknown hfind, hrest, hunknown, if_neg Bool.false_ne_true,
            List.append_nil]
          refine and_congr_right fun _ => forall₂_congr fun rule hrule => ?_
          rw [h.valuesOf_cons_of_unknown hfind hrule]
      | some field =>
          have hfield := List.mem_of_find?_eq_some hfind
          obtain ⟨rule, hrule, ⟨hfollows, hset⟩⟩ := h.exists_rule hfield
          obtain rfl : rule.name = name := beq_iff_eq.mp (List.find?_some hfind :)
          have hknown : shape.fields.any (·.name == rule.name) = true :=
            List.any_eq_true.mpr ⟨_, hfield, beq_self_eq_true _⟩
          have hread := fun place => hfollows place value
            (hplain rule hrule value (by simp [valuesOf_cons_self]))
          rw [recordEntries_eq_ok_iff_of_known hfind, h.fills_entry_iff hrule hset, hknown,
            if_pos rfl, List.append_assoc, List.singleton_append]
          simp only [Field.of, bind_eq_ok_iff, pure_eq_ok_iff, hread, hrest]
          constructor
          · rintro ⟨hseen, _, ⟨content, hmeans, rfl⟩, hseen', hfills⟩
            exact ⟨hseen', hseen, content, hmeans, hfills⟩
          · rintro ⟨hseen', hseen, content, hmeans, hfills⟩
            exact ⟨hseen, _, ⟨content, hmeans, rfl⟩, hseen', hfills⟩

/-! ## Whole records -/

theorem mem_fieldNames_iff {name : String} (hname : ∃ field ∈ shape.fields, field.name = name)
    (entries : List (String × Literal)) :
    name ∈ fieldNames shape entries ↔ valuesOf name entries ≠ [] := by
  have hknown : shape.fields.any (·.name == name) = true := by
    obtain ⟨field, hfield, rfl⟩ := hname
    exact List.any_eq_true.mpr ⟨field, hfield, beq_self_eq_true _⟩
  rw [Ne, valuesOf_eq_nil_iff, not_not, fieldNames, List.mem_reverse, List.mem_filter]
  exact and_iff_left hknown

/-- A rule allows what a field was filled with, if the field was written or has a default. -/
theorem Obeys.allows_iff (h : Obeys shape rules) {rule : Rule ρ} (hrule : rule ∈ rules)
    (written : List Literal) (record : ρ) :
    rule.Allows written (rule.get record) ↔
      rule.Fills [] shape.blank written record ∧
        (rule.default?.isNone = true → written ≠ []) := by
  obtain ⟨_, -, ⟨-, hset⟩⟩ := h.exists_field hrule
  cases written with
  | nil =>
      rw [Rule.Allows, Rule.Fills]
      cases hdefault : rule.default? with
      | none => simp
      | some value =>
          rw [← hset.get_blank value hdefault]
          simp [eq_comm]
  | cons value written =>
      rw [and_iff_left fun _ => List.cons_ne_nil _ _, Rule.fills_cons]
      cases written with
      | nil => simp [Rule.Allows]
      | cons other written => simp [Rule.Allows]

/-- No required field is missing exactly if every rule without a default has a value. -/
theorem Obeys.find?_missing_iff (h : Obeys shape rules) (entries : List (String × Literal)) :
    (shape.fields.find? fun field =>
        field.required && !(fieldNames shape entries).contains field.name) = none ↔
      ∀ rule ∈ rules, rule.default?.isNone = true → valuesOf rule.name entries ≠ [] := by
  have hwritten : ∀ field ∈ shape.fields,
      (field.required && !(fieldNames shape entries).contains field.name) = true ↔
        field.required = true ∧ valuesOf field.name entries = [] := by
    intro field hfield
    have hmem := mem_fieldNames_iff ⟨field, hfield, rfl⟩ entries
    rw [Bool.and_eq_true, Bool.not_eq_true', ← Bool.not_eq_true, List.contains_iff_mem, hmem,
      not_not]
  rw [List.find?_eq_none]
  constructor
  · intro hnone rule hrule hrequired hmissing
    obtain ⟨_, hfield, ⟨-, -⟩⟩ := h.exists_field hrule
    exact hnone _ hfield ((hwritten _ hfield).mpr ⟨hrequired, hmissing⟩)
  · intro hall field hfield hmissing
    obtain ⟨hrequired, hmissing⟩ := (hwritten field hfield).mp hmissing
    obtain ⟨rule, hrule, ⟨-, -⟩⟩ := h.exists_rule hfield
    exact hall rule hrule hrequired hmissing

/-- The reader of a record takes exactly the tables of which every rule allows the record. -/
theorem follows_record (h : Obeys shape rules) :
    Follows (dialect.record shape) (.record rules) := by
  intro path value hplain result
  rw [Dialect.record, content_tree, pure_bind]
  cases value with
  | table entries =>
      have hentries := h.recordEntries_eq_ok_iff path hplain shape.blank []
      have hmissing := h.find?_missing_iff entries
      change dialect.recordTable shape path (entryTrees entries) true = .ok result ↔
        ∀ rule ∈ rules, rule.Allows (valuesOf rule.name entries) (rule.get result)
      rw [Dialect.recordTable, bind_eq_ok_iff]
      constructor
      · rintro ⟨⟨draft, seen⟩, hread, hrest⟩ rule hrule
        obtain ⟨rfl, hfills⟩ := (hentries draft seen).mp hread
        simp only [Dialect.complete, if_true, pure_bind, List.append_nil] at hrest
        cases hfind : shape.fields.find? fun field =>
            field.required && !(fieldNames shape entries).contains field.name with
        | none =>
            rw [hfind, pure_eq_ok_iff] at hrest
            subst hrest
            exact (h.allows_iff hrule _ _).mpr ⟨hfills rule hrule, hmissing.mp hfind rule hrule⟩
        | some field =>
            rw [hfind] at hrest
            cases hrest
      · intro hallows
        have hfills := fun rule hrule => (h.allows_iff hrule _ _).mp (hallows rule hrule)
        have hread := (hentries result (fieldNames shape entries)).mpr
          ⟨(List.append_nil _).symm, fun rule hrule => (hfills rule hrule).1⟩
        refine ⟨_, hread, ?_⟩
        simp only [Dialect.complete, if_true, pure_bind]
        rw [hmissing.mpr fun rule hrule => (hfills rule hrule).2]
        rfl
  | list items => exact hplain.elim
  | null | boolean _ | number _ | text _ =>
      exact iff_of_false (wrongType_ne_ok _ _ _ _) id

/-- A text that writes a value is read as a record exactly if the value stands for it. -/
theorem Obeys.read_eq_ok_iff (h : Obeys shape rules) {value : Literal} {text : List Char}
    (hspells : Spells value text) (hplain : (Kind.record rules).Plain value) (result : ρ) :
    Json.read shape (String.ofList text) = .ok result ↔
      (Kind.record rules).Means value result := by
  have hread : Json.read shape (String.ofList text) = dialect.record shape [] value.tree := by
    simp only [Json.read, ofText_of_spells hspells, if_true, bind_pure]
  rw [hread]
  exact follows_record h [] value hplain result

end

end StorageSurvey.Json
