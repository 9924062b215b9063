import StorageSurvey.Proofs.Document.Written

/-!
# Values without records

A tree can be taken for a value with no record in mind: each scalar is what its notation takes it
for, and lists and tables keep their order.  What was written can be compared in this way across
notations, since a value knows nothing of how it was written.

Writers write neither tags nor references, so trees with either have no value here.
-/

namespace StorageSurvey.Document

/-- What a document holds, whatever its notation. -/
inductive Value where
  | scalar (found : Found)
  | list (items : List Value)
  | table (entries : List (Value × Value))

namespace Value

def text (content : String) : Value :=
  .scalar (.text content)

def natural (number : Nat) : Value :=
  .scalar (.integer number)

def texts (contents : List String) : Value :=
  .list (contents.map text)

/-- The table with these contents under texts. -/
def record (fields : List (String × Value)) : Value :=
  .table (fields.map fun field => (text field.1, field.2))

end Value

/-- Whether no table has a key twice, at any depth. -/
inductive Value.DistinctKeys : Value → Prop
  | scalar (found : Found) : DistinctKeys (.scalar found)
  | list {items : List Value} (hitems : ∀ item ∈ items, DistinctKeys item) :
      DistinctKeys (.list items)
  | table {entries : List (Value × Value)} (hnodup : (entries.map (·.1)).Nodup)
      (hkeys : ∀ entry ∈ entries, DistinctKeys entry.1)
      (hcontents : ∀ entry ∈ entries, DistinctKeys entry.2) : DistinctKeys (.table entries)

mutual

/-- The text that a value ends with, if it ends with one. -/
def Value.lastText? : Value → Option String
  | .scalar (.text content) => some content
  | .scalar _ => none
  | .list items => lastItemText? items
  | .table entries => lastEntryText? entries

def Value.lastItemText? : List Value → Option String
  | [] => none
  | [item] => item.lastText?
  | _ :: item :: items => lastItemText? (item :: items)

def Value.lastEntryText? : List (Value × Value) → Option String
  | [] => none
  | [(_, content)] => content.lastText?
  | _ :: entry :: entries => lastEntryText? (entry :: entries)

end

/-! ## The value of a tree -/

namespace Dialect

variable {σ : Type} {m : Type → Type} (d : Dialect σ m)

mutual

/-- The value of a tree.  There is none where the text broke off or a scalar is faulty. -/
def value? : Tree σ → Option Value
  | .scalar scalar => (d.found [] scalar).toOption.map .scalar
  | .list items true => (values? items).map .list
  | .table entries true => (entryValues? entries).map .table
  | .list _ false | .table _ false | .tagged _ _ | .alias _ | .broken => none

/-- The values of several trees. -/
def values? : List (Tree σ) → Option (List Value)
  | [] => some []
  | item :: items => do return (← value? item) :: (← values? items)

/-- The values of the keys and of what they stand before. -/
def entryValues? : List (Tree σ × Tree σ) → Option (List (Value × Value))
  | [] => some []
  | (key, content) :: entries => do
      return (← value? key, ← value? content) :: (← entryValues? entries)

end

end Dialect

/-! ## The value that is written -/

namespace Datum

mutual

/-- What is written, as a document holds it. -/
def value : Datum → Value
  | .null => .scalar .null
  | .natural number => .scalar (.integer number)
  | .text content => .scalar (.text content)
  | .list items => .list (values items)
  | .record fields => .table (fieldValues fields)

def values : List Datum → List Value
  | [] => []
  | item :: items => item.value :: values items

def fieldValues : List (String × Datum) → List (Value × Value)
  | [] => []
  | (name, content) :: fields => (.scalar (.text name), content.value) :: fieldValues fields

end

theorem values_eq_map (items : List Datum) : values items = items.map value := by
  induction items with
  | nil => rfl
  | cons item items ih => rw [values, ih, List.map_cons]

theorem fieldValues_eq_map (fields : List (String × Datum)) :
    fieldValues fields =
      fields.map fun field => (.scalar (.text field.1), field.2.value) := by
  induction fields with
  | nil => rfl
  | cons field fields ih => rw [fieldValues, ih, List.map_cons]

theorem value_text (content : String) : (text content).value = .text content := rfl

theorem value_natural (number : Nat) : (natural number).value = .natural number := rfl

theorem value_record (fields : List (String × Datum)) :
    (record fields).value = .record (fields.map fun field => (field.1, field.2.value)) := by
  rw [value, fieldValues_eq_map, Value.record, List.map_map]
  rfl

/-- The value of written items is the list of the values of the items. -/
theorem value_list {α : Type} (write : α → Datum) (items : List α) :
    (list (items.map write)).value = .list (items.map fun item => (write item).value) := by
  rw [value, values_eq_map, List.map_map]
  rfl

theorem value_texts (contents : List String) : (texts contents).value = .texts contents :=
  value_list _ contents

/-- Whether all numbers are words and no record has a field twice, at any depth. -/
inductive WellFormed : Datum → Prop
  | null : WellFormed .null
  | natural {number : Nat} (hword : number < wordLimit) : WellFormed (.natural number)
  | text (content : String) : WellFormed (.text content)
  | list {items : List Datum} (hitems : ∀ item ∈ items, WellFormed item) :
      WellFormed (.list items)
  | record {fields : List (String × Datum)} (hnames : (fields.map (·.1)).Nodup)
      (hfields : ∀ field ∈ fields, WellFormed field.2) : WellFormed (.record fields)

theorem WellFormed.texts (contents : List String) : WellFormed (.texts contents) := by
  refine .list fun item hitem => ?_
  obtain ⟨content, -, rfl⟩ := List.mem_map.mp hitem
  exact .text content

/-- A list of written items is well formed if the items are. -/
theorem WellFormed.ofItems {α : Type} {write : α → Datum} {items : List α}
    (hitems : ∀ item ∈ items, WellFormed (write item)) : WellFormed (.list (items.map write)) := by
  refine .list fun item hitem => ?_
  obtain ⟨source, hsource, rfl⟩ := List.mem_map.mp hitem
  exact hitems source hsource

/-- Different fields have different keys. -/
theorem WellFormed.distinctKeys {datum : Datum} (h : datum.WellFormed) :
    datum.value.DistinctKeys := by
  induction h with
  | null => exact .scalar .null
  | natural _ => exact .scalar _
  | text content => exact .scalar (.text content)
  | list _ ih =>
      rw [value, values_eq_map]
      refine .list fun item hitem => ?_
      obtain ⟨source, hsource, rfl⟩ := List.mem_map.mp hitem
      exact ih source hsource
  | @record fields hnames _ ih =>
      rw [value, fieldValues_eq_map]
      refine .table ?_ (fun entry hentry => ?_) fun entry hentry => ?_
      · have hkeys : ((fields.map (·.1)).map fun name => Value.scalar (.text name)).Nodup :=
          List.Pairwise.map _ (fun first second hne heq => hne (by injections)) hnames
        rwa [List.map_map] at hkeys ⊢
      · obtain ⟨field, -, rfl⟩ := List.mem_map.mp hentry
        exact .scalar _
      · obtain ⟨field, hfield, rfl⟩ := List.mem_map.mp hentry
        exact ih field hfield

end Datum

/-! ## Trees of written values -/

namespace Dialect.Understands

variable {σ : Type} {m : Type → Type} [Monad m] {d : Dialect σ m} {forms : ScalarForms σ}

mutual

/-- A dialect that understands the scalars takes the tree of a value for the value. -/
theorem value?_tree (hd : d.Understands forms) {datum : Datum} (h : datum.WellFormed) :
    d.value? (forms.tree datum) = some datum.value := by
  match datum with
  | .null => simp [ScalarForms.tree, value?, Datum.value, hd.found_null, Except.toOption]
  | .natural number =>
      cases h with
      | natural hword =>
          simp [ScalarForms.tree, value?, Datum.value, hd.found_natural [] number hword,
            Except.toOption]
  | .text content =>
      simp [ScalarForms.tree, value?, Datum.value, hd.found_text, Except.toOption]
  | .list items =>
      cases h with
      | list hitems =>
          rw [ScalarForms.tree, value?, values?_trees hd hitems]
          rfl
  | .record fields =>
      cases h with
      | record _ hfields =>
          rw [ScalarForms.tree, value?, entryValues?_entries hd hfields]
          rfl

theorem values?_trees (hd : d.Understands forms) {items : List Datum}
    (h : ∀ item ∈ items, item.WellFormed) :
    d.values? (forms.trees items) = some (Datum.values items) := by
  match items with
  | [] => rfl
  | item :: items =>
      have hitem := value?_tree hd (h item List.mem_cons_self)
      have hitems := values?_trees hd fun other hother => h other (List.mem_cons_of_mem _ hother)
      simp [ScalarForms.trees, values?, Datum.values, hitem, hitems]

theorem entryValues?_entries (hd : d.Understands forms) {fields : List (String × Datum)}
    (h : ∀ field ∈ fields, field.2.WellFormed) :
    d.entryValues? (forms.entries fields) = some (Datum.fieldValues fields) := by
  match fields with
  | [] => rfl
  | (name, content) :: fields =>
      have hkey : d.value? (.scalar (forms.key name)) = some (.scalar (.text name)) := by
        simp [value?, hd.found_key, Except.toOption]
      have hcontent := value?_tree hd (h (name, content) List.mem_cons_self)
      have hfields := entryValues?_entries hd fun other hother =>
        h other (List.mem_cons_of_mem _ hother)
      simp [ScalarForms.entries, entryValues?, Datum.fieldValues, hkey, hcontent, hfields]

end

end Dialect.Understands

end StorageSurvey.Document
