import StorageSurvey.Proofs.Number.Digits
import StorageSurvey.Proofs.Yaml.Trees

/-!
# What YAML makes of written scalars

A text is written plainly only if it stands for itself then, and in all other styles nothing is made
of it but the text.  The digits of a number stand for the number.
-/

namespace StorageSurvey.Yaml

open StorageSurvey.Document StorageSurvey.Number

/-! ## Digits -/

theorem digitValue?_of_isDigit {c : Char} (h : c.isDigit = true) :
    digitValue? 10 c = some (c.toNat - 48) := by
  have hbound : c.toNat - 48 < 10 := by
    simp only [Char.isDigit, Bool.and_eq_true, decide_eq_true_eq, UInt32.le_iff_toNat_le] at h
    have : c.toNat = c.val.toNat := rfl
    simp at h
    omega
  simp [digitValue?, h, hbound]

theorem foldlM_digits {digits : List Char} (h : ∀ c ∈ digits, c.isDigit = true) (before : Nat) :
    digits.foldlM (fun n c => (digitValue? 10 c).map (n * 10 + ·)) before =
      some (Nat.ofDigitChars 10 digits before) := by
  induction digits generalizing before with
  | nil => rfl
  | cons digit digits ih =>
      rw [List.foldlM_cons, digitValue?_of_isDigit (h digit List.mem_cons_self),
        Nat.ofDigitChars_cons, Nat.mul_comm]
      exact ih (fun c hc => h c (List.mem_cons_of_mem _ hc)) _

theorem digits?_toDigits (n : Nat) : digits? 10 (Nat.toDigits 10 n) = some n := by
  rw [digits?]
  · rw [foldlM_digits fun _ => isDigit_of_mem_toDigits, Nat.ofDigitChars_ten_toDigits]
  · exact fun h => Nat.toDigits_ne_nil h

/-- The first of the digits of a natural is a digit, and if it is zero there is no other. -/
theorem exists_toDigits (n : Nat) :
    ∃ c rest, Nat.toDigits 10 n = c :: rest ∧ c.isDigit = true ∧ (c = '0' → rest = []) := by
  obtain ⟨c, rest, hdigits⟩ := List.exists_cons_of_ne_nil (Nat.toDigits_ne_nil (n := n) (b := 10))
  refine ⟨c, rest, hdigits, ?_, ?_⟩
  · exact isDigit_of_mem_toDigits (n := n) (by rw [hdigits]; exact List.mem_cons_self)
  · rintro rfl
    exact (toDigits_eq_zero_cons hdigits).2

theorem ne_of_isDigit {c d : Char} (hc : c.isDigit = true) (hd : d.isDigit = false) : c ≠ d := by
  rintro rfl
  rw [hc] at hd
  cases hd

theorem hasLeadingZero_toDigits (n : Nat) : hasLeadingZero (Nat.toDigits 10 n) = false := by
  obtain ⟨c, rest, hdigits, hc, hzero⟩ := exists_toDigits n
  have hplus : c ≠ '+' := ne_of_isDigit hc rfl
  have hminus : c ≠ '-' := ne_of_isDigit hc rfl
  rw [hdigits]
  by_cases h : c = '0'
  · rw [h, hzero h]
    rfl
  · simp [hasLeadingZero, hplus, hminus, h]

theorem natural?_toDigits (n : Nat) : natural? (Nat.toDigits 10 n) = some n := by
  obtain ⟨c, rest, hdigits, hc, hzero⟩ := exists_toDigits n
  have hplus : c ≠ '+' := ne_of_isDigit hc rfl
  have hread := digits?_toDigits n
  have hleading := hasLeadingZero_toDigits n
  rw [hdigits] at hread hleading ⊢
  by_cases h : c = '0'
  · rw [h, hzero h] at hread ⊢
    exact hread
  · simp [natural?, basedDigits?, hleading, hplus, h, hread]

theorem integer?_toDigits {n : Nat} (h : n < wordLimit) :
    integer? (Nat.toDigits 10 n) = some (n : Int) := by
  have hbound : n < Nat.pow 2 128 := Nat.lt_trans h (by decide)
  rw [integer?, natural?_toDigits]
  exact if_pos hbound

/-- Digits are neither a null nor a boolean. -/
theorem plain_toDigits {n : Nat} (h : n < wordLimit) :
    plain (String.ofList (Nat.toDigits 10 n)) = .integer n := by
  obtain ⟨c, rest, hdigits, hc, -⟩ := exists_toDigits n
  have hne : ∀ word : String, word.toList.head?.any Char.isDigit = false →
      String.ofList (Nat.toDigits 10 n) ≠ word := by
    rintro word hword rfl
    rw [String.toList_ofList, hdigits, List.head?_cons, Option.any_some, hc] at hword
    cases hword
  have hnull : isNull (String.ofList (Nat.toDigits 10 n)) = false := by
    simp [isNull, hne "~" rfl, hne "null" rfl, hne "Null" rfl, hne "NULL" rfl]
  have hboolean : boolean? (String.ofList (Nat.toDigits 10 n)) = none := by
    simp [boolean?, hne "true" rfl, hne "True" rfl, hne "TRUE" rfl, hne "false" rfl,
      hne "False" rfl, hne "FALSE" rfl]
  have hinteger : integer? (String.ofList (Nat.toDigits 10 n)).toList = some (n : Int) := by
    rw [String.toList_ofList, integer?_toDigits h]
  rw [plain, if_neg (by simp [hne "" rfl, hnull]), hboolean]
  simp only [hinteger]

/-! ## Scalars -/

theorem integer?_natural {value : Nat} (h : value < wordLimit) :
    Scalar.integer? (forms.natural value) = some (value : Int) := by
  have hplain : (forms.natural value).style = .plain := rfl
  have hdigits : natural? (forms.natural value).text.toList = some value := by
    simp only [forms, String.toList_ofList, natural?_toDigits]
  simp only [Scalar.integer?, hplain, true_or, if_true, hdigits]
  exact if_pos h

theorem found_natural (path : Path) {value : Nat} (h : value < wordLimit) :
    Scalar.found path (forms.natural value) = .ok (.integer value) := by
  have hplain : Scalar.foundPlain (String.ofList (Nat.toDigits 10 value)) = .integer value := by
    have hbounds : -Nat.pow 2 63 ≤ (value : Int) ∧ (value : Int) < UInt64.size :=
      ⟨Int.le_trans (by decide) (Int.natCast_nonneg value), Int.ofNat_lt.mpr h⟩
    rw [Scalar.foundPlain, plain_toDigits h]
    exact if_pos hbounds
  simp [Scalar.found, forms, hplain]

theorem found_null (path : Path) : Scalar.found path forms.null = .ok .null := by
  simp [Scalar.found, forms, Scalar.foundPlain, plain, isNull]

theorem found_text (path : Path) (value : String) :
    Scalar.found path (forms.text value) = .ok (.text value) := by
  by_cases hstyle : styleOf value = .plain
  · have hplain := (of_styleOf_eq_plain hstyle).1
    simp [Scalar.found, forms, hstyle, Scalar.foundPlain, hplain]
  · simp [Scalar.found, forms, hstyle]

/-- A text that stands for itself is not null. -/
theorem isAbsent_text (path : Path) (value : String) :
    Scalar.isAbsent path (forms.text value) = .ok false := by
  by_cases hstyle : styleOf value = .plain
  · have hplain := (of_styleOf_eq_plain hstyle).1
    have hnull : ¬ (value = "" ∨ isNull value = true) := by
      intro hnull
      rw [plain, if_pos hnull] at hplain
      cases hplain
    rw [not_or] at hnull
    simp [Scalar.isAbsent, forms, hstyle, hnull.1, hnull.2]
  · simp [Scalar.isAbsent, forms, hstyle]

theorem dialect_understands (document : Document) : document.dialect.Understands forms where
  text?_text _ := rfl
  text?_key _ := rfl
  integer?_natural _ := integer?_natural
  isAbsent_text := isAbsent_text
  variant_text _ _ := rfl
  found_null := found_null
  found_natural path _ := found_natural path
  found_text := found_text
  found_key := found_text

end StorageSurvey.Yaml
