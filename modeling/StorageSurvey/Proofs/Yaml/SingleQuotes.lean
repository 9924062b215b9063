import StorageSurvey.Proofs.Yaml.Characters

/-!
# Texts in single quotes

A text between single quotes is read back as it was.  A line end in it is a line or paragraph
separator, which folding keeps, and the spaces that indent the line after it are dropped.  Spaces
beside a line end would be dropped too, so the writer uses these quotes only where there are none.
-/

namespace StorageSurvey.Yaml

/-! ## Folding -/

theorem Gap.folded_lines {first : Char} (h : first ≠ '\n') (others : List Char) :
    (Gap.lines (some first) others).folded = others ++ [first] := by
  rw [folded]
  · rfl
  · rintro heq -
    exact h (Option.some.inj heq)
  · exact fun heq => h (Option.some.inj heq)

namespace Folding

theorem settle_push (folding : Folding) (c : Char) :
    (folding.push c).settle.text = c :: folding.settle.text := rfl

theorem settle_pushGap_blank {folding : Folding} {blanks : List Char} {c : Char}
    (hgap : folding.gap = .blanks blanks) (hc : isBreak c = false) :
    (folding.pushGap c).gap = .blanks (c :: blanks) ∧
      (folding.pushGap c).settle.text = c :: folding.settle.text := by
  simp [pushGap, settle, Gap.blank, Gap.folded, hc, hgap]

/-- A line end other than a line feed stays what it is. -/
theorem settle_pushGap_first {folding : Folding} {c : Char}
    (hgap : folding.gap = .blanks []) (hc : isBreak c = true) (hfeed : c ≠ '\n') :
    (folding.pushGap c).gap = .lines (some c) [] ∧
      (folding.pushGap c).settle.text = c :: folding.settle.text := by
  simp only [pushGap, settle, hc, if_true, hgap, Gap.lineBreak, Gap.folded_lines hfeed]
  simp [Gap.folded]

theorem settle_pushGap_next {folding : Folding} {first : Char} {others : List Char} {c : Char}
    (hgap : folding.gap = .lines (some first) others) (hc : isBreak c = true)
    (hfeed : first ≠ '\n') :
    (folding.pushGap c).gap = .lines (some first) (c :: others) ∧
      (folding.pushGap c).settle.text = c :: folding.settle.text := by
  simp only [pushGap, settle, hc, if_true, hgap, Gap.lineBreak, Gap.folded_lines hfeed]
  simp

theorem pushGap_space {folding : Folding} {first : Option Char} {others : List Char}
    (hgap : folding.gap = .lines first others) : folding.pushGap ' ' = folding := by
  obtain ⟨text, gap⟩ := folding
  cases hgap
  rfl

end Folding

/-! ## The body -/

theorem singleQuotedFrom_gap {c : Char} (hc : isGap c = true) (folding : Folding) (mark : Mark)
    (rest : List Char) :
    singleQuotedFrom folding mark (c :: rest) =
      singleQuotedFrom (folding.pushGap c) (mark.past c) rest := by
  rw [singleQuotedFrom.eq_def]
  exact if_pos hc

/-- The indentation of a line is dropped. -/
theorem singleQuotedFrom_spaces {folding : Folding} {first : Option Char} {others : List Char}
    (hgap : folding.gap = .lines first others) (n : Nat) (mark : Mark) (rest : List Char) :
    singleQuotedFrom folding mark (spaces n ++ rest) =
      singleQuotedFrom folding (mark.after (spaces n)) rest := by
  induction n generalizing mark with
  | zero => rfl
  | succ n ih =>
      rw [spaces_succ, List.cons_append, singleQuotedFrom_gap rfl, Folding.pushGap_space hgap, ih,
        Mark.after_cons]

/-- A character of a word, which is written once or, if it is a quote, twice. -/
theorem singleQuotedFrom_char {c : Char} (hgap : isGap c = false) (folding : Folding)
    {mark : Mark} (hmark : mark.column ≠ 0) (rest : List Char) :
    singleQuotedFrom folding mark ((if c = '\'' then ['\'', '\''] else [c]) ++ rest) =
      singleQuotedFrom (folding.push c)
        (mark.after (if c = '\'' then ['\'', '\''] else [c])) rest := by
  by_cases hquote : c = '\''
  · subst hquote
    rw [if_pos rfl, List.cons_append, List.cons_append, List.nil_append, singleQuotedFrom,
      if_neg (by simp [hgap]), if_neg (fun h => hmark h.1), if_pos rfl]
    rfl
  · rw [if_neg hquote, List.singleton_append, singleQuotedFrom.eq_def]
    simp only [hgap, hmark, hquote, false_and, if_false, Bool.false_eq_true]
    rw [Mark.after_cons, Mark.after_nil, Mark.past_of_not_isBreak mark (isBreak_of_isGap hgap)]

theorem singleQuotedFrom_close {rest : List Char} (hrest : rest.head? ≠ some '\'')
    (folding : Folding) (mark : Mark) :
    singleQuotedFrom folding mark ('\'' :: rest) =
      some (folding.settle.value, ⟨rest, mark.ahead 1⟩) := by
  rw [singleQuotedFrom, if_neg (by decide), if_neg (by simp [atDocumentMark]), if_pos rfl]
  rintro after rfl
  exact hrest rfl

/-- What the reader knows before it reads on with a text, inside a line or at its start. -/
def Folding.Awaits (folding : Folding) (mark : Mark) (indent : Nat) (atLineStart : Bool)
    (text : List Char) : Prop :=
  if atLineStart then
    (∃ first others, folding.gap = .lines (some first) others ∧ first ≠ '\n') ∧
      text.head? ≠ some ' ' ∧ 0 < indent
  else
    ∃ blanks, folding.gap = .blanks blanks ∧
      (blanks ≠ [] → ∀ c, text.head? = some c → endsLine c = false) ∧ mark.column ≠ 0

/-- After a character of a word the reader is inside a line. -/
theorem Folding.awaits_push (folding : Folding) (c : Char) {mark : Mark}
    (hmark : mark.column ≠ 0) (indent : Nat) (text : List Char) :
    (folding.push c).Awaits mark indent false text :=
  ⟨[], rfl, fun h => absurd rfl h, hmark⟩

theorem column_after_quoted {c : Char} (hc : isBreak c = false) (mark : Mark) :
    (mark.after (if c = '\'' then ['\'', '\''] else [c])).column ≠ 0 := by
  rw [Mark.after_eq_ahead]
  · split <;> simp [Mark.ahead]
  · split
    · simp [isBreak, isSeparator]
    · simp [hc]

/-- What is written for a character is taken, and the reader then awaits the text after it. -/
structure Folding.Takes (folding : Folding) (mark : Mark) (indent : Nat) (c : Char)
    (text written : List Char) (next : Folding) : Prop where
  settle : next.settle.text = c :: folding.settle.text
  awaits : next.Awaits (mark.after written) indent (endsLine c) text
  reads : ∀ rest, singleQuotedFrom folding mark (written ++ rest) =
    singleQuotedFrom next (mark.after written) rest

variable {indent : Nat} {text rest : List Char} {atLineStart : Bool} {folding : Folding}
  {mark : Mark} {c : Char}

/-- The end of a line is kept back until the next line begins. -/
theorem exists_takes_lineEnd (hc : isPrintable c = true) (hends : endsLine c = true)
    (hfeed : c ≠ '\n') (hafter : text.head? ≠ some ' ') (hindent : 0 < indent)
    (hawaits : folding.Awaits mark indent atLineStart (c :: text)) :
    ∃ next, folding.Takes mark indent c text [c] next := by
  have hbreak := isBreak_of_endsLine hc hends
  have hreads : ∀ rest, singleQuotedFrom folding mark ([c] ++ rest) =
      singleQuotedFrom (folding.pushGap c) (mark.after [c]) rest :=
    singleQuotedFrom_gap (isGap_of_isBreak hbreak) folding mark
  cases atLineStart with
  | false =>
      -- no blank stands before the end of a line, so none is folded away
      obtain ⟨blanks, hgap, hblanks, -⟩ := hawaits
      have hempty : blanks = [] := by
        cases blanks with
        | nil => rfl
        | cons => exact absurd (hblanks (by simp) c rfl) (by simp [hends])
      subst hempty
      obtain ⟨hgap, hsettle⟩ := Folding.settle_pushGap_first hgap hbreak hfeed
      refine ⟨_, hsettle, ?_, hreads⟩
      rw [hends]
      exact ⟨⟨c, [], hgap, hfeed⟩, hafter, hindent⟩
  | true =>
      obtain ⟨⟨first, others, hgap, hfirst⟩, -⟩ := hawaits
      obtain ⟨hgap, hsettle⟩ := Folding.settle_pushGap_next hgap hbreak hfirst
      refine ⟨_, hsettle, ?_, hreads⟩
      rw [hends]
      exact ⟨⟨first, c :: others, hgap, hfirst⟩, hafter, hindent⟩

/-- A character inside a line is taken as it is, after the indentation if the line begins. -/
theorem exists_takes_char (hc : isPrintable c = true) (hends : endsLine c = false)
    (hbefore : c = ' ' → ∀ d, text.head? = some d → endsLine d = false)
    (hawaits : folding.Awaits mark indent atLineStart (c :: text)) :
    ∃ next, folding.Takes mark indent c text ((if atLineStart then spaces indent else []) ++
      (if c = '\'' then ['\'', '\''] else [c])) next := by
  have hnotBreak : isBreak c = false := by rw [isBreak_of_isPrintable hc, hends]
  cases atLineStart with
  | false =>
      obtain ⟨blanks, hgap, hblanks, hmark⟩ := hawaits
      rw [if_neg (by decide), List.nil_append]
      by_cases hspace : c = ' '
      · subst hspace
        obtain ⟨hgap, hsettle⟩ := Folding.settle_pushGap_blank hgap hnotBreak
        exact ⟨_, hsettle, ⟨_, hgap, fun _ => hbefore rfl, column_after_quoted hnotBreak mark⟩,
          singleQuotedFrom_gap rfl folding mark⟩
      · have hword : isGap c = false := by simp [isGap_of_isPrintable hc, hspace, hends]
        refine ⟨_, folding.settle_push c, ?_, singleQuotedFrom_char hword folding hmark⟩
        rw [hends]
        exact folding.awaits_push c (column_after_quoted hnotBreak mark) indent text
  | true =>
      obtain ⟨⟨first, others, hgap, -⟩, hspace, hwidth⟩ := hawaits
      have hspace : c ≠ ' ' := fun h => hspace (by rw [h]; rfl)
      have hword : isGap c = false := by simp [isGap_of_isPrintable hc, hspace, hends]
      have hmark : (mark.after (spaces indent)).column ≠ 0 := by
        simp only [Mark.after_spaces, Mark.ahead]
        omega
      rw [if_pos rfl]
      refine ⟨_, folding.settle_push c, ?_, fun rest => ?_⟩
      · rw [hends, Mark.after_append]
        exact folding.awaits_push c (column_after_quoted hnotBreak _) indent text
      · rw [List.append_assoc, singleQuotedFrom_spaces hgap,
          singleQuotedFrom_char hword folding hmark, Mark.after_append]

/-- The body of the quotes begins with what is written for the first character, and that is
taken. -/
theorem exists_takes (hc : isPrintable c = true) (hfeed : c ≠ '\n')
    (hafter : endsLine c = true → text.head? ≠ some ' ')
    (hbefore : c = ' ' → ∀ d, text.head? = some d → endsLine d = false)
    (hindent : endsLine c = true → 0 < indent)
    (hawaits : folding.Awaits mark indent atLineStart (c :: text)) :
    ∃ written next, folding.Takes mark indent c text written next ∧
      singleQuotedBody indent atLineStart (c :: text) =
        written ++ singleQuotedBody indent (endsLine c) text := by
  cases hends : endsLine c with
  | true =>
      obtain ⟨next, htakes⟩ :=
        exists_takes_lineEnd hc hends hfeed (hafter hends) (hindent hends) hawaits
      refine ⟨_, _, htakes, ?_⟩
      rw [singleQuotedBody, if_pos hends, List.singleton_append]
  | false =>
      obtain ⟨next, htakes⟩ := exists_takes_char hc hends hbefore hawaits
      refine ⟨_, _, htakes, ?_⟩
      rw [singleQuotedBody, if_neg (by simp [hends])]

/-- A text in single quotes, from anywhere in it, is read up to the quote that closes it. -/
theorem singleQuotedFrom_body (hprint : ∀ c ∈ text, isPrintable c = true) (hfeed : '\n' ∉ text)
    (hafter : hasSpaceAfterBreak text = false) (hbefore : hasSpaceBeforeBreak text = false)
    (hindent : text.any endsLine = true → 0 < indent) (hrest : rest.head? ≠ some '\'')
    (hawaits : folding.Awaits mark indent atLineStart text) :
    singleQuotedFrom folding mark
        (singleQuotedBody indent atLineStart text ++ '\'' :: rest) =
      some (folding.settle.value ++ text,
        ⟨rest, mark.after (singleQuotedBody indent atLineStart text ++ ['\''])⟩) := by
  induction text generalizing atLineStart folding mark with
  | nil =>
      rw [singleQuotedBody]
      cases atLineStart with
      | false =>
          rw [if_neg (by decide), List.nil_append, singleQuotedFrom_close hrest, List.append_nil]
          rfl
      | true =>
          obtain ⟨⟨first, others, hgap, -⟩, -⟩ := hawaits
          rw [if_pos rfl, singleQuotedFrom_spaces hgap, singleQuotedFrom_close hrest,
            List.append_nil, Mark.after_append]
          rfl
  | cons c text ih =>
      have hc := hprint c List.mem_cons_self
      have hnotFeed : c ≠ '\n' := fun h => hfeed (h ▸ List.mem_cons_self)
      obtain ⟨hafter, hspaceAfter⟩ := hasSpaceAfterBreak_cons hafter
      obtain ⟨hbefore, hspaceBefore⟩ := hasSpaceBeforeBreak_cons hbefore
      obtain ⟨written, next, ⟨hsettle, hnext, hreads⟩, hwritten⟩ := exists_takes hc hnotFeed
        hspaceAfter hspaceBefore (fun hends => hindent (by simp [hends])) hawaits
      have hothers := ih (fun d hd => hprint d (List.mem_cons_of_mem _ hd))
        (fun h => hfeed (List.mem_cons_of_mem _ h)) hafter hbefore
        (fun h => hindent (by simp [h])) hnext
      rw [hwritten, List.append_assoc, List.append_assoc, hreads, hothers, ← Mark.after_append]
      simp [Folding.value, hsettle]

/-- A text in single quotes is read back.  Only a text with line ends needs an indentation. -/
theorem singleQuotedFrom_singleQuoted
    (hallows : allowsSingleQuotes text = true) (hfeed : '\n' ∉ text)
    (hindent : text.any endsLine = true → 0 < indent) (hrest : rest.head? ≠ some '\'')
    (mark : Mark) :
    singleQuotedFrom .empty (mark.ahead 1) ((singleQuoted indent text ++ rest).drop 1) =
      some (text, ⟨rest, mark.after (singleQuoted indent text)⟩) := by
  simp only [allowsSingleQuotes, Bool.and_eq_true, List.all_eq_true, Bool.not_eq_true'] at hallows
  obtain ⟨⟨hprint, hafter⟩, hbefore⟩ := hallows
  have hawaits : Folding.empty.Awaits (mark.ahead 1) indent false text :=
    ⟨[], rfl, fun h => absurd rfl h, by simp [Mark.ahead]⟩
  have hread := singleQuotedFrom_body hprint hfeed hafter hbefore hindent hrest hawaits
  rw [singleQuoted, List.cons_append, List.cons_append, List.drop_one, List.tail_cons,
    List.append_assoc, List.singleton_append, hread]
  rfl

end StorageSurvey.Yaml
