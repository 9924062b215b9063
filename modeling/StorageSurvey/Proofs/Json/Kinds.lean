import Mathlib.Data.List.Forall2
import StorageSurvey.Proofs.Document.Reading
import StorageSurvey.Proofs.Except
import StorageSurvey.Proofs.Json.Trees

/-!
# Kinds of values

A kind says which values are of it and what each of them stands for.  A record has rules: each names
a field, the kind of its value, and the default that it has where it is not written, if it need not
be.  Nothing is said of the order of the fields, nor of fields that no rule names.

A reader *follows* a kind if it takes exactly the values of the kind, each for what it stands for.
The readers of scalars and lists do.  What they say of a value that they do not take is left open
here; only that they do not take it counts.
-/

namespace StorageSurvey.Json

open StorageSurvey.Document

variable {α ρ : Type}

/-! ## Kinds -/

/-- A kind of value. -/
structure Kind (α : Type) where
  /-- Whether a value is of the kind and stands for `result`. -/
  Means : Literal → α → Prop
  /-- Whether no record in a value is written as a list and no variant as a table. -/
  Plain : Literal → Prop

namespace Kind

def text : Kind String where
  Means value result := value = .text result
  Plain _ := True

/-- A natural number is written with its digits alone. -/
def natural (toNat : α → Nat) : Kind α where
  Means value result :=
    ∃ digits, value = .number ⟨false, digits, [], none⟩ ∧
      Nat.ofDigitChars 10 digits 0 = toNat result
  Plain _ := True

def word32 : Kind UInt32 :=
  natural UInt32.toNat

def word64 : Kind UInt64 :=
  natural UInt64.toNat

def timeStamp : Kind Time.Instant where
  Means value result :=
    ∃ content, value = .text content ∧ Time.Instant.read content.toList = .ok result
  Plain _ := True

/-- A value that may be null. -/
def optional (kind : Kind α) : Kind (Option α) where
  Means
    | .null, result => result = none
    | value, result => ∃ present, kind.Means value present ∧ result = some present
  Plain := kind.Plain

/-- One of several variants, each of which has a name. -/
def variant (name : α → String) : Kind α where
  Means value result := value = .text (name result)
  Plain value := ∀ entries, value ≠ .table entries

def list (kind : Kind α) : Kind (List α) where
  Means
    | .list items, results => List.Forall₂ kind.Means items results
    | _, _ => False
  Plain
    | .list items => ∀ item ∈ items, kind.Plain item
    | _ => True

end Kind

/-! ## Records -/

/-- What the entries of a table have for a name. -/
def valuesOf (name : String) (entries : List (String × Literal)) : List Literal :=
  (entries.filter (·.1 == name)).map (·.2)

/-- What holds of a field of a record. -/
structure Rule (ρ : Type) where
  {α : Type}
  name : String
  kind : Kind α
  get : ρ → α
  /-- The value where the field is not written; without one it must be. -/
  default? : Option α

/-- Whether the content of a field follows from what is written for it: nothing or one value. -/
def Rule.Allows (rule : Rule ρ) (written : List Literal) (content : rule.α) : Prop :=
  match written with
  | [] => rule.default? = some content
  | [value] => rule.kind.Means value content
  | _ => False

/-- A record with these fields. -/
def Kind.record (rules : List (Rule ρ)) : Kind ρ where
  Means
    | .table entries, record =>
        ∀ rule ∈ rules, rule.Allows (valuesOf rule.name entries) (rule.get record)
    | _, _ => False
  Plain
    | .table entries => ∀ rule ∈ rules, ∀ value ∈ valuesOf rule.name entries, rule.kind.Plain value
    | .list _ => False
    | _ => True

/-! ## Readers -/

/-- Whether a reader takes exactly the values of a kind, for what they stand for. -/
def Follows (read : Reader Scalar (Except Fault) α) (kind : Kind α) : Prop :=
  ∀ path value, kind.Plain value →
    ∀ result, read path value.tree = .ok result ↔ kind.Means value result

theorem wrongType_ne_ok (path : Path) (content : Content Scalar) (wanted : Wanted) (result : α) :
    dialect.wrongType path content wanted ≠ .ok result := by
  intro h
  obtain ⟨_, -, hthrow⟩ := bind_eq_ok_iff.mp h
  cases hthrow

/-- What the node of a value holds. -/
def Literal.content : Literal → Content Scalar
  | .null => .scalar .null
  | .boolean value => .scalar (.boolean value)
  | .number literal => .scalar (.number literal)
  | .text content => .scalar (.text (some content))
  | .list items => .list (itemTrees items) true
  | .table entries => .table (entryTrees entries) true

theorem content_tree (value : Literal) : dialect.content value.tree = pure value.content := by
  cases value with
  | null | boolean _ | number _ | text _ => exact Dialect.content_scalar _
  | list items => exact Dialect.content_list _ _
  | table entries => exact Dialect.content_table _ _

/-- A key is read as the name that it writes, whatever it is the key of. -/
theorem key_eq (wanted : Wanted) (path : Path) (name : String) :
    dialect.key wanted path (.scalar (.text (some name))) = pure name :=
  Dialect.key_written dialect_understands wanted path name

/-! ### Texts -/

theorem textAs_eq_ok_iff (wanted : Wanted) (path : Path) (value : Literal) (result : String) :
    dialect.textAs wanted path value.tree = .ok result ↔ value = .text result := by
  rw [Dialect.textAs, content_tree, pure_bind]
  cases value with
  | text content => exact pure_eq_ok_iff.trans (Iff.of_eq (Literal.text.injEq _ _).symm)
  | null | boolean _ | number _ | list _ | table _ =>
      exact iff_of_false (wrongType_ne_ok _ _ _ _) Literal.noConfusion

theorem follows_text : Follows dialect.text .text :=
  fun path value _ result => textAs_eq_ok_iff .text path value result

theorem follows_timeStamp : Follows dialect.timeStamp .timeStamp := by
  intro path value _ result
  rw [Dialect.timeStamp, bind_eq_ok_iff]
  simp only [textAs_eq_ok_iff, Kind.timeStamp]
  refine exists_congr fun content => and_congr_right fun _ => ?_
  cases Time.Instant.read content.toList with
  | ok instant => exact pure_eq_ok_iff.trans (Iff.of_eq (Except.ok.injEq _ _).symm)
  | error fault => exact iff_of_false (error_ne_ok _ _) (error_ne_ok _ _)

/-- What names one of the variants is the text of its name, if no variant is written as a table. -/
theorem follows_variantOf {known : List (String × α)} {name : α → String}
    (hknown : ∀ content result, known.lookup content = some result ↔ content = name result) :
    Follows (dialect.variantOf known) (.variant name) := by
  intro path value hplain result
  cases value with
  | text content =>
      have hvariant : dialect.variant path (.scalar (.text (some content))) =
          pure ⟨content, path, pure ()⟩ := rfl
      simp only [Dialect.variantOf, Literal.tree, Dialect.resolve, pure_bind, hvariant,
        Kind.variant]
      rw [Literal.text.injEq, ← hknown]
      cases known.lookup content with
      | some found => exact pure_eq_ok_iff.trans (Iff.of_eq (Option.some.injEq _ _).symm)
      | none => exact iff_of_false (error_ne_ok _ _) (Option.some_ne_none result).symm
  | table entries => exact absurd rfl (hplain entries)
  | null | boolean _ | number _ | list _ =>
      exact iff_of_false (error_ne_ok _ _) Literal.noConfusion

/-! ### Naturals -/

theorem full_foldl_pushWhole {digits : List Char} {s : Significand} (h : s.full = true) :
    (digits.foldl Significand.pushWhole s).full = true := by
  induction digits generalizing s with
  | nil => exact h
  | cons digit digits ih => exact ih (Significand.full_pushWhole (.inl h))

/-- The word is full once it has met a digit for which it has no room. -/
theorem full_foldl_pushWhole_of_le {digits : List Char} {word : Nat} (hword : word < UInt64.size)
    (hvalue : UInt64.size ≤ Nat.ofDigitChars 10 digits word) :
    (digits.foldl Significand.pushWhole ⟨word, 0, false⟩).full = true := by
  induction digits generalizing word with
  | nil => exact absurd hvalue (Nat.not_le.mpr hword)
  | cons digit digits ih =>
      rw [Nat.ofDigitChars_cons, Nat.mul_comm] at hvalue
      rw [List.foldl_cons]
      rcases Nat.lt_or_ge (word * 10 + (digit.toNat - 48)) UInt64.size with hroom | hroom
      · rw [Significand.pushWhole_of_lt hroom]
        exact ih hroom hvalue
      · exact full_foldl_pushWhole (Significand.full_pushWhole (.inr hroom))

theorem wholePart_of_lt {literal : NumberLiteral}
    (hvalue : Nat.ofDigitChars 10 literal.whole 0 < UInt64.size) :
    literal.wholePart = ⟨Nat.ofDigitChars 10 literal.whole 0, 0, false⟩ :=
  foldl_pushWhole hvalue

/-- A number stands for a natural if it has only digits, whose value fits the word. -/
theorem value_eq_natural_iff (literal : NumberLiteral) (n : Nat) :
    literal.value = .integer n ↔
      ∃ digits, literal = ⟨false, digits, [], none⟩ ∧ Nat.ofDigitChars 10 digits 0 = n ∧
        n < UInt64.size := by
  constructor
  · intro h
    unfold NumberLiteral.value at h
    split at h
    · rename_i hinteger
      obtain ⟨hfraction, hexponent, hroom⟩ := hinteger
      have hvalue : Nat.ofDigitChars 10 literal.whole 0 < UInt64.size := by
        refine Nat.not_le.mp fun hle => hroom ?_
        exact full_foldl_pushWhole_of_le (by decide) hle
      rw [wholePart_of_lt hvalue] at h
      obtain ⟨negative, whole, fraction, exponent⟩ := literal
      cases List.isEmpty_iff.mp hfraction
      cases Option.isNone_iff_eq_none.mp hexponent
      cases negative with
      | false =>
          simp only [Bool.false_eq_true, not_false_eq_true, if_true, NumberValue.integer.injEq,
            Int.natCast_inj] at h
          exact ⟨whole, rfl, h, h ▸ hvalue⟩
      | true =>
          -- a number with a sign is negative or no integer
          simp only [not_true_eq_false, if_false] at h
          split at h
          · rename_i hpositive
            simp only [NumberValue.integer.injEq] at h
            omega
          · cases h
    · cases h
  · rintro ⟨digits, rfl, rfl, hvalue⟩
    have hwhole : NumberLiteral.wholePart ⟨false, digits, [], none⟩ =
        ⟨Nat.ofDigitChars 10 digits 0, 0, false⟩ := wholePart_of_lt hvalue
    simp [NumberLiteral.value, hwhole]

theorem integer?_number (literal : NumberLiteral) :
    dialect.integer? (.number literal) = match literal.value with
      | .integer value => some value
      | .float _ _ => none :=
  rfl

theorem natural_eq_ok_iff {bits : Nat} (hbits : bits ≤ 64) (path : Path) (value : Literal)
    (n : Nat) :
    dialect.natural bits path value.tree = .ok n ↔
      ∃ digits, value = .number ⟨false, digits, [], none⟩ ∧
        Nat.ofDigitChars 10 digits 0 = n ∧ n < Nat.pow 2 bits := by
  rw [Dialect.natural, content_tree, pure_bind]
  cases value with
  | number literal =>
      have hnatural : (∃ digits, Literal.number literal = .number ⟨false, digits, [], none⟩ ∧
          Nat.ofDigitChars 10 digits 0 = n ∧ n < Nat.pow 2 bits) ↔
          literal.value = .integer n ∧ n < Nat.pow 2 bits := by
        rw [value_eq_natural_iff]
        constructor
        · rintro ⟨digits, hdigits, hvalue, hlimit⟩
          have hword : n < UInt64.size :=
            Nat.lt_of_lt_of_le hlimit (Nat.pow_le_pow_right (by decide) hbits)
          exact ⟨⟨digits, Literal.number.inj hdigits, hvalue, hword⟩, hlimit⟩
        · rintro ⟨⟨digits, hdigits, hvalue, -⟩, hlimit⟩
          exact ⟨digits, congrArg Literal.number hdigits, hvalue, hlimit⟩
      rw [hnatural, Literal.content]
      cases hvalue : literal.value with
      | integer found =>
          simp only [integer?_number, hvalue, NumberValue.integer.injEq]
          split
          · rename_i hrange
            rw [pure_eq_ok_iff]
            omega
          · rename_i hrange
            refine iff_of_false (error_ne_ok _ _) fun hfound => hrange ?_
            omega
      | float negative magnitude =>
          simp only [integer?_number, hvalue]
          exact iff_of_false (wrongType_ne_ok _ _ _ _) fun h => NumberValue.noConfusion h.1
  | null | boolean _ | text _ | list _ | table _ =>
      refine iff_of_false (wrongType_ne_ok _ _ _ _) ?_
      rintro ⟨_, ⟨⟩, -⟩

/-- A word is read from a natural if naturals that fit it and words are the same. -/
theorem follows_natural {bits : Nat} (hbits : bits ≤ 64) {ofNat : Nat → α} {toNat : α → Nat}
    (htoNat : ∀ n < Nat.pow 2 bits, toNat (ofNat n) = n)
    (hofNat : ∀ result, ofNat (toNat result) = result)
    (hlimit : ∀ result, toNat result < Nat.pow 2 bits) :
    Follows (fun path tree => do return ofNat (← dialect.natural bits path tree))
      (.natural toNat) := by
  intro path value _ result
  simp only [bind_eq_ok_iff, natural_eq_ok_iff hbits, pure_eq_ok_iff]
  constructor
  · rintro ⟨n, ⟨digits, hvalue, hdigits, hn⟩, rfl⟩
    exact ⟨digits, hvalue, hdigits.trans (htoNat n hn).symm⟩
  · rintro ⟨digits, hvalue, hdigits⟩
    exact ⟨toNat result, ⟨digits, hvalue, hdigits, hlimit result⟩, hofNat result⟩

theorem follows_word32 : Follows dialect.word32 .word32 :=
  follows_natural (by decide) (fun _ hn => UInt32.toNat_ofNat_of_lt' hn) (fun _ => by simp)
    UInt32.toNat_lt

theorem follows_word64 : Follows dialect.word64 .word64 :=
  follows_natural (by decide) (fun _ hn => UInt64.toNat_ofNat_of_lt' hn) (fun _ => by simp)
    UInt64.toNat_lt

/-! ### Values inside others -/

theorem follows_optional {read : Reader Scalar (Except Fault) α} {kind : Kind α}
    (h : Follows read kind) : Follows (dialect.optional read) kind.optional := by
  intro path value hplain result
  cases value with
  | null => exact pure_eq_ok_iff.trans eq_comm
  | boolean _ | number _ | text _ | list _ | table _ =>
      have hread := h path _ hplain
      change (some <$> read path _ : Except Fault (Option α)) = .ok result ↔ _
      rw [map_eq_pure_bind, bind_eq_ok_iff]
      simp only [hread, pure_eq_ok_iff, eq_comm (a := some _)]
      rfl

theorem itemsFrom_eq_ok_iff {read : Reader Scalar (Except Fault) α} {kind : Kind α}
    (h : Follows read kind) (path : Path) (index : Nat) {items : List Literal}
    (hplain : ∀ item ∈ items, kind.Plain item) (results : List α) :
    Dialect.itemsFrom read path index (itemTrees items) = .ok results ↔
      List.Forall₂ kind.Means items results := by
  induction items generalizing index results with
  | nil =>
      rw [List.forall₂_nil_left_iff]
      exact pure_eq_ok_iff.trans eq_comm
  | cons item items ih =>
      obtain ⟨hitem, hitems⟩ := List.forall_mem_cons.mp hplain
      rw [itemTrees, Dialect.itemsFrom, List.forall₂_cons_left_iff]
      simp only [bind_eq_ok_iff, h _ item hitem, ih (index + 1) hitems, pure_eq_ok_iff]
      constructor
      · rintro ⟨value, hvalue, values, hvalues, rfl⟩
        exact ⟨value, values, hvalue, hvalues, rfl⟩
      · rintro ⟨value, values, hvalue, hvalues, rfl⟩
        exact ⟨value, hvalue, values, hvalues, rfl⟩

theorem follows_list {read : Reader Scalar (Except Fault) α} {kind : Kind α}
    (h : Follows read kind) : Follows (dialect.list read) kind.list := by
  intro path value hplain result
  rw [Dialect.list, content_tree, pure_bind]
  cases value with
  | list items =>
      have hitems := itemsFrom_eq_ok_iff h path 0 hplain result
      simp only [Literal.content, Dialect.complete, if_true, pure_bind, bind_pure]
      exact hitems
  | null | boolean _ | number _ | text _ | table _ =>
      exact iff_of_false (wrongType_ne_ok _ _ _ _) id

end StorageSurvey.Json
