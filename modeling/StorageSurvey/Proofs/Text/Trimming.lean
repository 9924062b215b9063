import StorageSurvey.Text.Blank

/-!
# Trimmed texts

Trimming takes white space from the end of a text and nothing else.  So a text that does not end
with white space stays as it is, and what stands before such an end stays whatever follows it.
-/

namespace StorageSurvey.Text

theorem isBlank_of_isDigit {c : Char} (h : c.isDigit = true) : isBlank c = false := by
  have hrange : 48 ≤ c.toNat ∧ c.toNat ≤ 57 := by
    simp only [Char.isDigit, Bool.and_eq_true, decide_eq_true_eq, ge_iff_le,
      UInt32.le_iff_toNat_le] at h
    exact h
  simp [isBlank]
  omega

/-- Whether a text does not end with white space. -/
def EndsSolid (text : List Char) : Prop :=
  ∀ c, text.getLast? = some c → isBlank c = false

theorem endsSolid_nil : EndsSolid [] := by
  intro c hc
  cases hc

theorem endsSolid_concat {c : Char} (h : isBlank c = false) (text : List Char) :
    EndsSolid (text ++ [c]) := by
  intro d hd
  rw [List.getLast?_concat, Option.some.injEq] at hd
  rw [← hd, h]

theorem EndsSolid.append {text rest : List Char} (h : EndsSolid text) (hrest : EndsSolid rest) :
    EndsSolid (text ++ rest) := by
  intro c hc
  rw [List.getLast?_append, Option.or_eq_some_iff] at hc
  rcases hc with hc | ⟨-, hc⟩
  · exact hrest c hc
  · exact h c hc

/-- Only the end of a text matters. -/
theorem EndsSolid.append_of_ne_nil {rest : List Char} (hrest : EndsSolid rest) (hne : rest ≠ [])
    (text : List Char) : EndsSolid (text ++ rest) := by
  intro c hc
  rw [List.getLast?_append, Option.or_eq_some_iff] at hc
  rcases hc with hc | ⟨hnone, -⟩
  · exact hrest c hc
  · exact absurd (List.getLast?_eq_none_iff.mp hnone) hne

/-! ## What is trimmed -/

theorem trimEnd_eq_of_endsSolid {text : List Char} (h : EndsSolid text) : trimEnd text = text := by
  rw [trimEnd]
  cases hreverse : text.reverse with
  | nil =>
      rw [List.reverse_eq_nil_iff.mp hreverse]
      rfl
  | cons c rest =>
      have hc : isBlank c = false := by
        refine h c ?_
        rw [List.getLast?_eq_head?_reverse, hreverse, List.head?_cons]
      rw [List.dropWhile_cons_of_neg (by simp [hc]), ← hreverse, List.reverse_reverse]

theorem trimEnd_append_of_isBlank {text blanks : List Char}
    (h : ∀ c ∈ blanks, isBlank c = true) : trimEnd (text ++ blanks) = trimEnd text := by
  rw [trimEnd, trimEnd, List.reverse_append, List.dropWhile_append_of_pos]
  intro c hc
  exact h c (List.mem_reverse.mp hc)

/-- A text that ends solidly, with white space after it. -/
theorem trimEnd_append {text blanks : List Char} (h : EndsSolid text)
    (hblanks : ∀ c ∈ blanks, isBlank c = true) : trimEnd (text ++ blanks) = text := by
  rw [trimEnd_append_of_isBlank hblanks, trimEnd_eq_of_endsSolid h]

theorem endsSolid_trimEnd (text : List Char) : EndsSolid (trimEnd text) := by
  intro c hc
  rw [trimEnd, List.getLast?_reverse] at hc
  have hnot := List.head?_dropWhile_not isBlank text.reverse
  rw [hc] at hnot
  simpa using hnot

/-- Only white space is trimmed. -/
theorem exists_trimEnd_append (text : List Char) :
    ∃ blanks, text = trimEnd text ++ blanks ∧ ∀ c ∈ blanks, isBlank c = true := by
  refine ⟨(text.reverse.takeWhile isBlank).reverse, ?_, fun c hc => ?_⟩
  · rw [trimEnd, ← List.reverse_append, List.takeWhile_append_dropWhile, List.reverse_reverse]
  · exact List.all_eq_true.mp List.all_takeWhile c (List.mem_reverse.mp hc)

/-- What stands before white space stays if it ends solidly, whatever is trimmed after it. -/
theorem trimEnd_append_of_endsSolid {text : List Char} (h : EndsSolid text) (rest : List Char) :
    trimEnd (text ++ rest) = text ++ trimEnd rest := by
  obtain ⟨blanks, hrest, hblanks⟩ := exists_trimEnd_append rest
  have hkept : EndsSolid (text ++ trimEnd rest) := h.append (endsSolid_trimEnd rest)
  conv => lhs; rw [hrest, ← List.append_assoc]
  exact trimEnd_append hkept hblanks

end StorageSurvey.Text
