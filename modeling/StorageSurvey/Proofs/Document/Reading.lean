import StorageSurvey.Proofs.Document.Written
import StorageSurvey.Proofs.Time.Reading

/-!
# Readers take what was written

`Reads` says that a reader takes a written value for a given one, at whatever place it stands.  The
readers of texts, numbers, time stamps, variants, lists and tables do so in every dialect that
understands the scalars of its notation; a record is read field by field.
-/

namespace StorageSurvey.Document

variable {σ : Type} {m : Type → Type} [Monad m] [MonadExceptOf Fault m] [LawfulMonad m]
variable {d : Dialect σ m} {forms : ScalarForms σ}

namespace Dialect

/-- Whether a reader takes the tree of a value for `result`. -/
def Reads {α : Type} (forms : ScalarForms σ) (read : Reader σ m α) (value : Datum) (result : α) :
    Prop :=
  ∀ path, read path (forms.tree value) = pure result

/-! ## Nodes of written values -/

theorem content_scalar (scalar : σ) : d.content (.scalar scalar) = pure (.scalar scalar) := by
  simp [content, resolve, Tree.content?, Tree.untagged]

theorem content_list (items : List (Tree σ)) (closed : Bool) :
    d.content (.list items closed) = pure (.list items closed) := by
  simp [content, resolve, Tree.content?, Tree.untagged]

theorem content_table (entries : List (Tree σ × Tree σ)) (closed : Bool) :
    d.content (.table entries closed) = pure (.table entries closed) := by
  simp [content, resolve, Tree.content?, Tree.untagged]

/-! ## Scalars -/

theorem reads_textAs (hd : d.Understands forms) (wanted : Wanted) (value : String) :
    Reads forms (d.textAs wanted) (.text value) value := by
  intro path
  simp [textAs, ScalarForms.tree, content_scalar, hd.text?_text]

theorem reads_text (hd : d.Understands forms) (value : String) :
    Reads forms d.text (.text value) value :=
  reads_textAs hd .text value

theorem reads_natural (hd : d.Understands forms) {bits value : Nat}
    (hvalue : value < Nat.pow 2 bits) (hlimit : value < wordLimit) :
    Reads forms (d.natural bits) (.natural value) value := by
  intro path
  have hrange : (0 : Int) ≤ value ∧ (value : Int) < Nat.pow 2 bits :=
    ⟨Int.natCast_nonneg value, Int.ofNat_lt.mpr hvalue⟩
  simp only [natural, ScalarForms.tree, content_scalar, pure_bind,
    hd.integer?_natural value hlimit]
  exact if_pos hrange

theorem reads_word32 (hd : d.Understands forms) (value : UInt32) :
    Reads forms d.word32 (.natural value.toNat) value := by
  intro path
  have hvalue : value.toNat < Nat.pow 2 32 := value.toNat_lt
  have hlimit : value.toNat < wordLimit := Nat.lt_trans hvalue (by decide)
  rw [word32, reads_natural hd hvalue hlimit path, pure_bind]
  simp

theorem reads_word64 (hd : d.Understands forms) (value : UInt64) :
    Reads forms d.word64 (.natural value.toNat) value := by
  intro path
  rw [word64, reads_natural hd value.toNat_lt value.toNat_lt path, pure_bind]
  simp

theorem reads_timeStamp (hd : d.Understands forms) (instant : Time.Instant) :
    Reads forms d.timeStamp (.text (String.ofList (instant.text .letter))) instant := by
  intro path
  rw [timeStamp, reads_textAs hd .timeStamp _ path, pure_bind, String.toList_ofList,
    Time.Instant.read_text]

theorem reads_optional (hd : d.Understands forms) {α : Type} {read : Reader σ m α}
    {value : String} {result : α} (h : Reads forms read (.text value) result) :
    Reads forms (d.optional read) (.text value) (some result) := by
  intro path
  have hread := h path
  simp only [ScalarForms.tree] at hread
  simp [optional, resolve, ScalarForms.tree, hd.isAbsent_text, ofExcept, hread]

theorem reads_variantOf (hd : d.Understands forms) {α : Type} {known : List (String × α)}
    {name : String} {variant : α} (h : known.lookup name = some variant) :
    Reads forms (d.variantOf known) (.text name) variant := by
  intro path
  simp [variantOf, resolve, ScalarForms.tree, hd.variant_text, h]

/-! ## Lists and tables -/

omit [MonadExceptOf Fault m] in
theorem itemsFrom_map {α : Type} {read : Reader σ m α} {write : α → Datum} {items : List α}
    (h : ∀ item ∈ items, Reads forms read (write item) item) (path : Path) (index : Nat) :
    itemsFrom read path index (forms.trees (items.map write)) = pure items := by
  induction items generalizing index with
  | nil => rfl
  | cons item items ih =>
      simp only [List.map_cons, ScalarForms.trees, itemsFrom]
      rw [h item List.mem_cons_self, pure_bind,
        ih (fun other hmem => h other (List.mem_cons_of_mem item hmem)), pure_bind]

theorem reads_list {α : Type} {read : Reader σ m α} {write : α → Datum} {items : List α}
    (h : ∀ item ∈ items, Reads forms read (write item) item) :
    Reads forms (d.list read) (.list (items.map write)) items := by
  intro path
  rw [list, ScalarForms.tree, content_list, pure_bind]
  simp [itemsFrom_map h, complete]

theorem reads_texts (hd : d.Understands forms) (values : List String) :
    Reads forms (d.list d.text) (.texts values) values :=
  reads_list fun value _ => reads_text hd value

theorem key_written (hd : d.Understands forms) (wanted : Wanted) (path : Path) (name : String) :
    d.key wanted path (.scalar (forms.key name)) = pure name := by
  simp [key, content_scalar, hd.text?_key]

theorem textEntries_map (hd : d.Understands forms) (entries : List (String × String))
    (path : Path) :
    d.textEntries path (forms.entries (entries.map fun entry => (entry.1, .text entry.2))) =
      pure entries := by
  induction entries with
  | nil => rfl
  | cons entry entries ih =>
      simp only [List.map_cons, ScalarForms.entries, textEntries]
      rw [key_written hd, pure_bind, reads_text hd, pure_bind, ih, pure_bind]

theorem reads_textTable (hd : d.Understands forms) (entries : List (String × String)) :
    Reads forms d.textTable (.record (entries.map fun entry => (entry.1, .text entry.2)))
      entries := by
  intro path
  rw [textTable, ScalarForms.tree, content_table, pure_bind]
  simp [textEntries_map hd, complete]

/-! ## Records -/

/-- The field that is written next is set, if it was not there before. -/
theorem recordEntries_cons (hd : d.Understands forms) {ρ : Type} {shape : Shape σ m ρ}
    {field : Field σ m ρ} {name : String} {value : Datum} {set : ρ → ρ} {seen : List String}
    (hfield : shape.fields.find? (·.name == name) = some field) (hfresh : name ∉ seen)
    (hread : Reads forms field.read value set) (path : Path) (draft : ρ)
    (rest : List (String × Datum)) :
    d.recordEntries shape path draft seen (forms.entries ((name, value) :: rest)) =
      d.recordEntries shape path (set draft) (name :: seen) (forms.entries rest) := by
  rw [ScalarForms.entries, recordEntries, key_written hd, pure_bind, hfield]
  simp only [if_neg hfresh]
  rw [hread, pure_bind]

omit [MonadExceptOf Fault m] in
theorem reads_field {ρ α : Type} {name : String} {required : Bool} {read : Reader σ m α}
    {set : α → ρ → ρ} {value : Datum} {result : α} (h : Reads forms read value result) :
    Reads forms (Field.of name required read set).read value (set result) := by
  intro path
  simp only [Field.of]
  rw [h, pure_bind]

/-- A field that a record does not have is passed over, whatever its value. -/
theorem recordEntries_unknown (hd : d.Understands forms) {ρ : Type} {shape : Shape σ m ρ}
    {name : String} (hfield : shape.fields.find? (·.name == name) = none) (value : Datum)
    (path : Path) (draft : ρ) (seen : List String) (rest : List (String × Datum)) :
    d.recordEntries shape path draft seen (forms.entries ((name, value) :: rest)) =
      d.recordEntries shape path draft seen (forms.entries rest) := by
  rw [ScalarForms.entries, recordEntries, key_written hd, pure_bind, hfield]

/-- A record is read if its entries are, and no required field is missing among those of its own
fields that are `seen`. -/
theorem reads_record_of_seen {ρ : Type} {shape : Shape σ m ρ} {fields : List (String × Datum)}
    {result : ρ} {seen : List String}
    (hentries : ∀ path, d.recordEntries shape path shape.blank [] (forms.entries fields) =
      pure (result, seen))
    (hpresent : (shape.fields.find? fun field =>
      field.required && !seen.contains field.name) = none) :
    Reads forms (d.record shape) (.record fields) result := by
  intro path
  rw [record, ScalarForms.tree, content_table, pure_bind]
  simp only [recordTable, complete, if_true]
  rw [hentries, pure_bind, pure_bind, hpresent]

/-- A record that is written with its own fields only is read if its entries are, and no required
field is missing among them. -/
theorem reads_record {ρ : Type} {shape : Shape σ m ρ} {fields : List (String × Datum)}
    {result : ρ}
    (hentries : ∀ path, d.recordEntries shape path shape.blank [] (forms.entries fields) =
      pure (result, (fields.map (·.1)).reverse))
    (hpresent : (shape.fields.find? fun field =>
      field.required && !(fields.map (·.1)).reverse.contains field.name) = none) :
    Reads forms (d.record shape) (.record fields) result :=
  reads_record_of_seen hentries hpresent

end Dialect

end StorageSurvey.Document
