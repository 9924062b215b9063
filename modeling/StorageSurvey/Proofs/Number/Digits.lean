import Mathlib.Algebra.Group.Nat.Defs
import StorageSurvey.Number.Rounding

/-!
# Digits that are read back

A natural is written with its decimal digits, in places with zeros in front of them.  The digits
come back when they are taken from the front of a text that goes on with something else, and they
give back the natural.
-/

namespace StorageSurvey.Number

/-! ## Taking the digits from a text -/

theorem isDigit_of_mem_toDigits {n : Nat} {c : Char} (h : c ∈ Nat.toDigits 10 n) :
    c.isDigit = true :=
  Nat.isDigit_of_mem_toDigits (by decide) (by decide) h

/-- A run of characters of a class is taken as a whole from a text that does not go on with the
class. -/
theorem takeWhile_append_of_head {p : Char → Bool} {run rest : List Char}
    (hrun : ∀ c ∈ run, p c = true) (hrest : rest.head?.any p = false) :
    (run ++ rest).takeWhile p = run := by
  rw [List.takeWhile_append_of_pos hrun]
  cases rest with
  | nil => simp
  | cons c rest =>
      have hc : p c = false := by simpa using hrest
      rw [List.takeWhile_cons_of_neg (by simp [hc]), List.append_nil]

theorem dropWhile_append_of_head {p : Char → Bool} {run rest : List Char}
    (hrun : ∀ c ∈ run, p c = true) (hrest : rest.head?.any p = false) :
    (run ++ rest).dropWhile p = rest := by
  rw [List.dropWhile_append_of_pos hrun]
  cases rest with
  | nil => rfl
  | cons c rest =>
      have hc : p c = false := by simpa using hrest
      exact List.dropWhile_cons_of_neg (by simp [hc])

/-! ## The first digit -/

/-- Only zero is written with a zero in front. -/
theorem toDigits_eq_zero_cons {n : Nat} {rest : List Char}
    (h : Nat.toDigits 10 n = '0' :: rest) : n = 0 ∧ rest = [] := by
  induction n using Nat.strongRecOn generalizing rest with
  | ind n ih =>
      rw [Nat.toDigits_eq_if (by decide)] at h
      split at h
      · injection h with hdigit hrest
        exact ⟨Nat.digitChar_eq_zero.mp hdigit, hrest.symm⟩
      · rename_i hge
        obtain ⟨digit, others, hdigits⟩ := List.exists_cons_of_ne_nil
          (Nat.toDigits_ne_nil (n := n / 10) (b := 10))
        rw [hdigits, List.cons_append] at h
        injection h with hdigit hrest
        have := (ih (n / 10) (by omega) (hdigit ▸ hdigits)).1
        omega

/-! ## The value of digits -/

/-- What is read never gets smaller when more digits are read. -/
theorem le_ofDigitChars (digits : List Char) (before : Nat) :
    before ≤ Nat.ofDigitChars 10 digits before := by
  rw [Nat.ofDigitChars_eq_ofDigitChars_zero]
  have := Nat.le_mul_of_pos_left before (Nat.pow_pos (n := digits.length) (by decide : 0 < 10))
  omega

/-- A digit is what is written for its value. -/
theorem digitChar_of_isDigit {c : Char} (h : c.isDigit = true) :
    c.toNat - '0'.toNat < 10 ∧ Nat.digitChar (c.toNat - '0'.toNat) = c := by
  have hrange : 48 ≤ c.toNat ∧ c.toNat ≤ 57 := Char.isDigit_iff_toNat.mp h
  have hwritten : ∀ d < 10, Nat.digitChar d = Char.ofNat (d + 48) := by decide
  have hless : c.toNat - 48 < 10 := by omega
  refine ⟨hless, ?_⟩
  calc Nat.digitChar (c.toNat - 48)
      = Char.ofNat (c.toNat - 48 + 48) := hwritten _ hless
    _ = Char.ofNat c.toNat := by rw [Nat.sub_add_cancel hrange.1]
    _ = c := Char.ofNat_toNat c

/-- Digits that go on after a number other than zero are written back behind it. -/
theorem toDigits_ofDigitChars {digits : List Char} (hdigits : ∀ c ∈ digits, c.isDigit = true)
    {before : Nat} (hbefore : 0 < before) :
    Nat.toDigits 10 (Nat.ofDigitChars 10 digits before) = Nat.toDigits 10 before ++ digits := by
  induction digits generalizing before with
  | nil => rw [Nat.ofDigitChars_nil, List.append_nil]
  | cons c digits ih =>
      obtain ⟨hless, hchar⟩ := digitChar_of_isDigit (hdigits c List.mem_cons_self)
      have hrest : ∀ d ∈ digits, d.isDigit = true := fun d hd =>
        hdigits d (List.mem_cons_of_mem c hd)
      rw [Nat.ofDigitChars_cons, ih hrest (by omega),
        ← Nat.toDigits_append_toDigits (by decide) hbefore hless, Nat.toDigits_of_lt_base hless,
        hchar, List.append_assoc, List.singleton_append]

/-! ## Digits with zeros in front -/

theorem isDigit_of_mem_paddedDigits {width n : Nat} {c : Char} (h : c ∈ paddedDigits width n) :
    c.isDigit = true := by
  rcases List.mem_append.mp h with hzero | hdigit
  · rw [(List.mem_replicate.mp hzero).2]
    rfl
  · exact isDigit_of_mem_toDigits hdigit

@[simp] theorem ofDigitChars_paddedDigits (width n : Nat) :
    Nat.ofDigitChars 10 (paddedDigits width n) 0 = n := by
  rw [paddedDigits, Nat.ofDigitChars_append, Nat.ofDigitChars_replicate_zero, Nat.mul_zero,
    Nat.ofDigitChars_ten_toDigits]

theorem paddedDigits_ne_nil (width n : Nat) : paddedDigits width n ≠ [] := by
  simp [paddedDigits, Nat.toDigits_ne_nil]

/-- A natural with at most `width` digits takes up exactly that width. -/
theorem length_paddedDigits {width n : Nat} (hwidth : 0 < width) (hn : n < 10 ^ width) :
    (paddedDigits width n).length = width := by
  have : (Nat.toDigits 10 n).length ≤ width :=
    (Nat.length_toDigits_le_iff (by decide) hwidth).mpr hn
  rw [paddedDigits, List.length_append, List.length_replicate]
  omega

end StorageSurvey.Number
