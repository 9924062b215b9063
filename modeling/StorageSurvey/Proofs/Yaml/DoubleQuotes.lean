import Mathlib.Algebra.Group.Nat.Defs
import StorageSurvey.Proofs.Yaml.SingleQuotes

/-!
# Texts in double quotes

Any text can be written between double quotes: what is not printed there as it is, is written after
a backslash, by a letter or by its number.  No line ever ends between these quotes, so nothing is
folded.
-/

namespace StorageSurvey.Yaml

/-! ## Hexadecimal numbers -/

theorem hexDigit?_upperHexDigit : ∀ n < 16, hexDigit? (upperHexDigit n) = some n := by
  decide

theorem hexNumber?_hexDigits {width n : Nat} (h : n < 16 ^ width) :
    hexNumber? (hexDigits width n) = some n := by
  induction width generalizing n with
  | zero =>
      have : n = 0 := by simpa using h
      rw [this]
      rfl
  | succ width ih =>
      have hhigh : n / 16 < 16 ^ width := by
        rw [Nat.div_lt_iff_lt_mul (by decide)]
        rwa [Nat.pow_succ] at h
      have hvalue : n / 16 * 16 + n % 16 = n := Nat.div_add_mod' n 16
      have hprefix := ih hhigh
      rw [hexNumber?] at hprefix ⊢
      rw [hexDigits, List.foldlM_append, hprefix]
      simp only [Option.bind_eq_bind, Option.bind_some, List.foldlM_cons, List.foldlM_nil,
        hexDigit?_upperHexDigit (n % 16) (Nat.mod_lt _ (by decide)), Option.map_some, hvalue]
      rfl

theorem length_hexDigits (width n : Nat) : (hexDigits width n).length = width := by
  induction width generalizing n with
  | zero => rfl
  | succ width ih => rw [hexDigits, List.length_append, ih, List.length_singleton]

/-- A character is no surrogate, so its number stands for it. -/
theorem hexChar?_hexDigits {c : Char} {width : Nat} (h : c.toNat < 16 ^ width) :
    hexChar? (hexDigits width c.toNat) = some c := by
  have hvalid : ¬ ((0xD800 ≤ c.toNat ∧ c.toNat ≤ 0xDFFF) ∨ 0x10FFFF < c.toNat) := by
    have := c.valid
    simp only [UInt32.isValidChar, Nat.isValidChar] at this
    have : c.toNat = c.val.toNat := rfl
    omega
  rw [hexChar?, hexNumber?_hexDigits h]
  simp only [Option.bind_eq_bind, Option.bind_some, if_neg hvalid, Char.ofNat_toNat]

/-! ## The body -/

theorem doubleQuotedFrom_gap {c : Char} (hc : isGap c = true) (folding : Folding) (mark : Mark)
    (rest : List Char) :
    doubleQuotedFrom folding mark (c :: rest) =
      doubleQuotedFrom (folding.pushGap c) (mark.past c) rest := by
  rw [doubleQuotedFrom.eq_def]
  exact if_pos hc

theorem doubleQuotedFrom_word {c : Char} (hgap : isGap c = false) (hquote : c ≠ '"')
    (hbackslash : c ≠ '\\') (folding : Folding) {mark : Mark} (hmark : mark.column ≠ 0)
    (rest : List Char) :
    doubleQuotedFrom folding mark (c :: rest) =
      doubleQuotedFrom (folding.push c) (mark.ahead 1) rest := by
  rw [doubleQuotedFrom.eq_def]
  simp only [hgap, hmark, hquote, hbackslash, false_and, if_false, Bool.false_eq_true]

theorem escapedChar?_escapeLetter? {c letter : Char} (h : escapeLetter? c = some letter) :
    escapedChar? letter = some c ∧ isBreak letter = false ∧ letter ≠ 'x' ∧ letter ≠ 'u' ∧
      letter ≠ 'U' := by
  have hc : ∀ {n : Nat} {d : Char}, c.toNat = n → d.toNat = n → d = c :=
    fun hn hd => Char.toNat_inj.mp (hd.trans hn.symm)
  unfold escapeLetter? at h
  split at h
  case h_15 => cases h
  all_goals
    cases h
    refine ⟨congrArg some (hc ‹_› rfl), rfl, ?_⟩
    decide

theorem doubleQuotedFrom_letter {c letter : Char} (h : escapeLetter? c = some letter)
    (folding : Folding) {mark : Mark} (hmark : mark.column ≠ 0) (rest : List Char) :
    doubleQuotedFrom folding mark ('\\' :: letter :: rest) =
      doubleQuotedFrom (folding.push c) (mark.ahead 2) rest := by
  obtain ⟨hc, hbreak, hx, hu, hU⟩ := escapedChar?_escapeLetter? h
  rw [doubleQuotedFrom.eq_def]
  simp only [show isGap '\\' = false by decide, hmark, false_and, if_false, Bool.false_eq_true]
  rw [if_neg (by decide), if_pos trivial]
  split
  case h_1 heq =>
    cases heq
    exact absurd rfl hx
  case h_2 heq =>
    cases heq
    exact absurd rfl hu
  case h_3 heq =>
    cases heq
    exact absurd rfl hU
  case h_4 heq =>
    cases heq
    rw [hbreak, if_neg (by decide), hc]
    rfl
  case h_5 heq => cases heq

/-- The signs that begin the number of a character, and how many digits follow. -/
def numberSigns : List (Char × Nat) :=
  [('x', 2), ('u', 4), ('U', 8)]

theorem doubleQuotedFrom_number {sign : Char} {width : Nat} (hsign : (sign, width) ∈ numberSigns)
    {c : Char} (h : c.toNat < 16 ^ width) (folding : Folding) {mark : Mark}
    (hmark : mark.column ≠ 0) (rest : List Char) :
    doubleQuotedFrom folding mark ('\\' :: sign :: (hexDigits width c.toNat ++ rest)) =
      doubleQuotedFrom (folding.push c) (mark.ahead (width + 2)) rest := by
  have hread := hexChar?_hexDigits h
  rw [doubleQuotedFrom.eq_def]
  simp only [show isGap '\\' = false by decide, hmark, false_and, if_false, Bool.false_eq_true]
  rw [if_neg (by decide), if_pos trivial]
  simp only [numberSigns, List.mem_cons, Prod.mk.injEq, List.not_mem_nil, or_false] at hsign
  rcases hsign with ⟨rfl, rfl⟩ | ⟨rfl, rfl⟩ | ⟨rfl, rfl⟩ <;>
    simp only [hexDigits, List.nil_append, List.cons_append] at hread ⊢ <;>
    rw [hread] <;>
    rfl

section Characters

variable {c : Char} {folding : Folding} {mark : Mark} (hmark : mark.column ≠ 0)

include hmark

/-- A character that is written as it is; a space waits for the word after it. -/
theorem exists_doubleQuotedFrom_plain {blanks : List Char} (hgap : folding.gap = .blanks blanks)
    (hinline : isInline c = true) (hquote : c ≠ '"') (hbackslash : c ≠ '\\')
    (rest : List Char) :
    ∃ next : Folding, (∃ blanks, next.gap = .blanks blanks) ∧
      next.settle.text = c :: folding.settle.text ∧
      doubleQuotedFrom folding mark (c :: rest) = doubleQuotedFrom next (mark.ahead 1) rest := by
  by_cases hspace : c = ' '
  · obtain ⟨hgap, hsettle⟩ := Folding.settle_pushGap_blank hgap (isBreak_of_isInline hinline)
    refine ⟨folding.pushGap c, ⟨_, hgap⟩, hsettle, ?_⟩
    rw [doubleQuotedFrom_gap (by rw [hspace]; rfl),
      Mark.past_of_not_isBreak mark (isBreak_of_isInline hinline)]
  · have hword : isGap c = false := by simp [isGap_of_isInline hinline, hspace]
    exact ⟨folding.push c, ⟨[], rfl⟩, folding.settle_push c,
      doubleQuotedFrom_word hword hquote hbackslash folding hmark rest⟩

/-- A character that is written with its letter, or with its number if it has none. -/
theorem doubleQuotedFrom_escaped (folding : Folding)
    (h : ¬ (isPrintable c ∧ ¬ endsLine c ∧ c ≠ '"' ∧ c ≠ '\\')) (rest : List Char) :
    doubleQuotedFrom folding mark (doubleQuotedChar c ++ rest) =
      doubleQuotedFrom (folding.push c) (mark.ahead (doubleQuotedChar c).length) rest := by
  rw [doubleQuotedChar, if_neg h]
  cases hletter : escapeLetter? c with
  | some letter => exact doubleQuotedFrom_letter hletter folding hmark rest
  | none =>
      have hnumber : ∀ {sign : Char} {width : Nat}, (sign, width) ∈ numberSigns →
          c.toNat < 16 ^ width →
          doubleQuotedFrom folding mark ('\\' :: sign :: hexDigits width c.toNat ++ rest) =
            doubleQuotedFrom (folding.push c)
              (mark.ahead ('\\' :: sign :: hexDigits width c.toNat).length) rest := by
        intro sign width hsign hwidth
        rw [List.length_cons, List.length_cons, length_hexDigits]
        exact doubleQuotedFrom_number hsign hwidth folding hmark rest
      -- eight digits are enough for every character
      have hbound : c.toNat < 0x110000 := by
        have := c.valid
        simp only [UInt32.isValidChar, Nat.isValidChar] at this
        have : c.toNat = c.val.toNat := rfl
        omega
      dsimp only
      split
      · exact hnumber (by decide) (by omega)
      · split
        · exact hnumber (by decide) (by omega)
        · exact hnumber (by decide) (by omega)

/-- One character, however it is written. -/
theorem exists_doubleQuotedFrom_char (c : Char) {blanks : List Char}
    (hgap : folding.gap = .blanks blanks) (rest : List Char) :
    ∃ next : Folding, (∃ blanks, next.gap = .blanks blanks) ∧
      next.settle.text = c :: folding.settle.text ∧
      doubleQuotedFrom folding mark (doubleQuotedChar c ++ rest) =
        doubleQuotedFrom next (mark.after (doubleQuotedChar c)) rest := by
  rw [Mark.after_eq_ahead mark fun d hd => isBreak_of_isInline (isInline_doubleQuotedChar c d hd)]
  by_cases hplain : isPrintable c ∧ ¬ endsLine c ∧ c ≠ '"' ∧ c ≠ '\\'
  · rw [doubleQuotedChar, if_pos hplain, List.singleton_append]
    obtain ⟨hprint, hends, hquote, hbackslash⟩ := hplain
    have hinline : isInline c = true := by simp [isInline, hprint, hends]
    exact exists_doubleQuotedFrom_plain hmark hgap hinline hquote hbackslash rest
  · exact ⟨folding.push c, ⟨[], rfl⟩, folding.settle_push c,
      doubleQuotedFrom_escaped hmark folding hplain rest⟩

end Characters

/-- A text in double quotes, from anywhere in it, is read up to the quote that closes it. -/
theorem doubleQuotedFrom_body (text rest : List Char) {folding : Folding} {blanks : List Char}
    (hgap : folding.gap = .blanks blanks) {mark : Mark} (hmark : mark.column ≠ 0) :
    doubleQuotedFrom folding mark (text.flatMap doubleQuotedChar ++ '"' :: rest) =
      some (folding.settle.value ++ text,
        ⟨rest, mark.after (text.flatMap doubleQuotedChar ++ ['"'])⟩) := by
  induction text generalizing folding blanks mark with
  | nil =>
      rw [List.flatMap_nil, List.nil_append, List.append_nil, doubleQuotedFrom.eq_def]
      simp only [show isGap '"' = false by decide, hmark, false_and, if_false,
        Bool.false_eq_true]
      rfl
  | cons c text ih =>
      rw [List.flatMap_cons, List.append_assoc, List.append_assoc, Mark.after_append]
      obtain ⟨next, ⟨blanks, hgap⟩, hsettle, hread⟩ :=
        exists_doubleQuotedFrom_char hmark c hgap (text.flatMap doubleQuotedChar ++ '"' :: rest)
      have hcolumn : (mark.after (doubleQuotedChar c)).column ≠ 0 := by
        rw [Mark.after_eq_ahead mark fun d hd =>
          isBreak_of_isInline (isInline_doubleQuotedChar c d hd)]
        simp only [Mark.ahead]
        omega
      rw [hread, ih hgap hcolumn]
      simp [Folding.value, hsettle]

/-- A text in double quotes is read back. -/
theorem doubleQuotedFrom_doubleQuoted (text rest : List Char) (mark : Mark) :
    doubleQuotedFrom .empty (mark.ahead 1) ((doubleQuoted text ++ rest).drop 1) =
      some (text, ⟨rest, mark.after (doubleQuoted text)⟩) := by
  have hmark : (mark.ahead 1).column ≠ 0 := by simp [Mark.ahead]
  have hread := @doubleQuotedFrom_body text rest .empty [] rfl _ hmark
  rw [doubleQuoted, List.cons_append, List.cons_append, List.drop_one, List.tail_cons,
    List.append_assoc, List.singleton_append, hread]
  rfl

end StorageSurvey.Yaml
