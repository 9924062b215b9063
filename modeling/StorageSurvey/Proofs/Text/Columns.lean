import StorageSurvey.Proofs.Number.Digits
import StorageSurvey.Text.Columns

/-!
# Lines of text in columns

A text is cut into lines, and lines that are put together are the lines of the text.  A cell begins
and ends with a blank, and nothing joins over a blank, so a cell takes the columns that it takes
alone, whatever stands beside it (`width_paddedCell_append`).  Where every row has a value for each
column, the width of a column depends on its own values only (`foldl_widen_map`).
-/

namespace StorageSurvey.Text

/-! ## Lines -/

/-- Whether a text stands on one line. -/
def Unbroken (text : String) : Prop :=
  '\n' ∉ text.toList

instance (text : String) : Decidable (Unbroken text) :=
  inferInstanceAs (Decidable ('\n' ∉ text.toList))

theorem Unbroken.append {first second : String} (hfirst : Unbroken first)
    (hsecond : Unbroken second) : Unbroken (first ++ second) := by
  rw [Unbroken, String.toList_append, List.mem_append, not_or]
  exact ⟨hfirst, hsecond⟩

theorem Unbroken.intercalate {separator : String} {texts : List String}
    (hseparator : Unbroken separator) (htexts : ∀ text ∈ texts, Unbroken text) :
    Unbroken (separator.intercalate texts) := by
  have hmem : ∀ parts : List (List Char), (∀ part ∈ parts, '\n' ∉ part) →
      '\n' ∉ separator.toList.intercalate parts := by
    intro parts hparts
    induction parts with
    | nil => simp
    | cons part parts ih =>
        obtain ⟨hpart, hrest⟩ := List.forall_mem_cons.mp hparts
        cases parts with
        | nil => simpa using hpart
        | cons next parts =>
            rw [List.intercalate_cons_cons, List.mem_append, List.mem_append, not_or, not_or]
            exact ⟨⟨hpart, hseparator⟩, ih hrest⟩
  rw [Unbroken, String.toList_intercalate]
  refine hmem _ fun part hpart => ?_
  obtain ⟨text, htext, rfl⟩ := List.mem_map.mp hpart
  exact htexts text htext

theorem unbroken_digits (n : Nat) : Unbroken (String.ofList (Nat.toDigits 10 n)) := by
  rw [Unbroken, String.toList_ofList]
  intro hmem
  exact absurd (Number.isDigit_of_mem_toDigits hmem) (by decide)

theorem split_eq_splitOnP (isSeparator : Char → Bool) (text : List Char) :
    split isSeparator text = text.splitOnP isSeparator := by
  induction text with
  | nil => rfl
  | cons c rest ih =>
      rw [split, ih, List.splitOnP_cons_eq_if_modifyHead]
      split
      · rfl
      · cases hrest : rest.splitOnP isSeparator with
        | nil => exact absurd hrest (List.splitOnP_ne_nil _ _)
        | cons part others => rfl

/-- Lines that are put together with line feeds are the lines of the text. -/
theorem lines_intercalate {parts : List (List Char)} (hparts : ∀ part ∈ parts, '\n' ∉ part)
    (hne : parts ≠ []) : lines (List.intercalate ['\n'] parts) = parts := by
  have hsplit := List.splitOn_intercalate '\n' hparts hne
  rw [lines, split_eq_splitOnP]
  exact hsplit

/-- No line has a line feed in it. -/
theorem lineFeed_notMem_of_mem_lines {text line : List Char} (h : line ∈ lines text) :
    '\n' ∉ line := by
  rw [lines] at h
  induction text generalizing line with
  | nil =>
      rw [split, List.mem_singleton] at h
      simp [h]
  | cons c text ih =>
      rw [split] at h
      split at h
      · rcases List.mem_cons.mp h with rfl | hrest
        · exact List.not_mem_nil
        · exact ih hrest
      · rename_i hother
        have hc : c ≠ '\n' := by simpa using hother
        cases hrest : split (· == '\n') text with
        | nil =>
            rw [hrest, List.mem_singleton] at h
            simpa [h] using hc.symm
        | cons part others =>
            rw [hrest] at ih h
            rcases List.mem_cons.mp h with rfl | hmem
            · simpa [hc.symm] using ih List.mem_cons_self
            · exact ih (List.mem_cons_of_mem part hmem)

theorem lines_ne_nil (text : List Char) : lines text ≠ [] := by
  rw [lines, split_eq_splitOnP]
  exact List.splitOnP_ne_nil _ _

theorem lines_of_unbroken {text : List Char} (h : '\n' ∉ text) : lines text = [text] := by
  have hlines : lines (List.intercalate ['\n'] [text]) = [text] :=
    lines_intercalate (by simpa using h) (List.cons_ne_nil _ _)
  rwa [List.intercalate_singleton] at hlines

namespace Columns

/-! ## Cells -/

theorem width_append_blanks (text : List Char) (count : Nat) (rest : List Char) :
    width (text ++ List.replicate count ' ' ++ ' ' :: rest) =
      width text + count + 1 + width rest := by
  induction count generalizing rest with
  | zero => simp
  | succ count ih =>
      rw [List.replicate_succ', ← List.append_assoc, List.append_assoc _ [' '],
        List.singleton_append, ih]
      simp
      omega

/-- A cell takes the width of its column and two blanks, whatever stands after it. -/
theorem width_paddedCell_append {columnWidth : Int} {text : List Char}
    (h : width text ≤ columnWidth) (rest : List Char) :
    width (paddedCell columnWidth text ++ rest) = columnWidth + 2 + width rest := by
  have hblanks := width_append_blanks text (columnWidth - width text).toNat rest
  simp only [paddedCell, List.cons_append, List.append_assoc, List.nil_append] at hblanks ⊢
  rw [width_space_cons, hblanks]
  omega

/-! ## The widths of columns -/

/-- Where every row has a value for each column, the width of a column depends on the column's own
values only. -/
theorem foldl_widen_map {γ ρ : Type} (columns : List γ) (value : γ → ρ → Int) (first : γ → Int)
    (rows : List ρ) :
    (rows.map fun row => columns.map (value · row)).foldl widen (columns.map first) =
      columns.map fun column => (rows.map (value column)).foldl max (first column) := by
  have hwiden : ∀ ws vs : γ → Int, widen (columns.map ws) (columns.map vs) =
      columns.map fun column => max (ws column) (vs column) := by
    intro ws vs
    induction columns with
    | nil => rfl
    | cons column columns ih => rw [List.map_cons, List.map_cons, widen, ih, List.map_cons]
  induction rows generalizing first with
  | nil => rfl
  | cons row rows ih =>
      simp only [List.map_cons, List.foldl_cons]
      rw [hwiden]
      exact ih _

end Columns

end StorageSurvey.Text
