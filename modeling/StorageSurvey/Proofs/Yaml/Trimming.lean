import StorageSurvey.Proofs.Text.Trimming
import StorageSurvey.Proofs.Yaml.Endings
import StorageSurvey.Proofs.Yaml.Scalars

/-!
# Texts whose end is trimmed

White space at the end of a document belongs to its last text, if it ends with one, unless the text
is in quotes.  A plain text may end with white space that is no blank for YAML, and a literal block
with more line ends than one.  Where trimming changes the lines of such a text, the text is not read
back from them: what is left is too short for a plain text, and a literal block gives at most one
line end back.
-/

namespace StorageSurvey.Yaml

open StorageSurvey.Text (EndsSolid trimEnd)

/-- Whether a text that ends a document is still there once the document is trimmed and its last
line is ended. -/
def keepsEnd (text : String) : Bool :=
  let kept := trimEnd text.toList
  match styleOf text with
  | .plain => text.toList == kept
  | .literal => kept != [] && (text.toList == kept || text.toList == kept ++ ['\n'])
  | _ => true

/-- The lines of a text after a sign or a colon, trimmed, with the end of the last line. -/
def trimmedLine (column : Nat) (text : String) : List Char :=
  trimEnd (' ' :: textLine (column + 2) text) ++ ['\n']

/-! ## Literal blocks -/

theorem isBlank_of_endsLine {c : Char} (h : endsLine c = true) : Text.isBlank c = true := by
  simp only [endsLine, Bool.or_eq_true, beq_iff_eq] at h
  rcases h with (((rfl | rfl) | rfl) | rfl) | rfl <;> rfl

/-- The lines of white space are white space. -/
theorem isBlank_literalBody (indent : Nat) (atLineStart : Bool) {text : List Char}
    (h : ∀ c ∈ text, Text.isBlank c = true) :
    ∀ c ∈ literalBody indent atLineStart text, Text.isBlank c = true := by
  intro c hc
  rcases eq_or_mem_of_mem_literalBody hc with (rfl | rfl) | hc
  · rfl
  · rfl
  · exact h c hc

/-- The lines of a text that ends solidly, and what becomes of them when more follows. -/
theorem exists_literalBody_append (indent : Nat) (atLineStart : Bool) {text : List Char}
    (hne : text ≠ []) (hsolid : EndsSolid text) :
    ∃ lines, lines ≠ [] ∧ EndsSolid lines ∧ ∀ more,
      literalBody indent atLineStart (text ++ more) = lines ++ literalBody indent false more := by
  induction text generalizing atLineStart with
  | nil => exact absurd rfl hne
  | cons c rest ih =>
      cases rest with
      | nil =>
          have hc : Text.isBlank c = false := hsolid c rfl
          have hends : endsLine c = false := by
            cases hends : endsLine c with
            | false => rfl
            | true =>
                rw [isBlank_of_endsLine hends] at hc
                cases hc
          refine ⟨(if atLineStart then spaces indent else []) ++ [c], by simp,
            Text.endsSolid_concat hc _, fun more => ?_⟩
          rw [List.singleton_append, literalBody, if_neg (by simp [hends]), List.append_assoc,
            List.singleton_append]
      | cons d rest =>
          have hrest : EndsSolid (d :: rest) := by
            intro last hlast
            refine hsolid last ?_
            rw [List.getLast?_cons_cons, hlast]
          -- the rest is solid as well, whether or not the character ends a line
          cases hends : endsLine c with
          | true =>
              obtain ⟨lines, hlines, hends', hwritten⟩ := ih true (List.cons_ne_nil d rest) hrest
              refine ⟨c :: lines, List.cons_ne_nil c lines, ?_, fun more => ?_⟩
              · exact hends'.append_of_ne_nil hlines [c]
              · rw [List.cons_append, literalBody, if_pos hends, hwritten, List.cons_append]
          | false =>
              obtain ⟨lines, hlines, hends', hwritten⟩ := ih false (List.cons_ne_nil d rest) hrest
              refine ⟨(if atLineStart then spaces indent else []) ++ c :: lines, by simp, ?_,
                fun more => ?_⟩
              · rw [← List.singleton_append, ← List.append_assoc]
                exact hends'.append_of_ne_nil hlines _
              · rw [List.cons_append, literalBody, if_neg (by simp [hends]), hwritten]
                simp

theorem endsSolid_hints (text : List Char) :
    EndsSolid ('|' :: (depthHint text ++ chompingHint text)) := by
  rcases BlockScalar.depthHint_cases text with hdepth | hdepth <;>
    rcases BlockScalar.chompingHint_cases text with hchomping | hchomping | hchomping <;>
    rw [hdepth, hchomping] <;>
    exact fun c hc => by cases hc; rfl

/-! ## Trimmed lines -/

/-- A line that does not end with white space, before its line end. -/
theorem trimEnd_line {line : List Char} (h : EndsSolid line) :
    trimEnd (line ++ ['\n']) = line := by
  refine Text.trimEnd_append h fun c hc => ?_
  rw [List.eq_of_mem_singleton hc]
  rfl

/-- A plain text loses the white space at its end, and nothing is left of one that is all white
space. -/
theorem trimmedLine_plain {text : String} (hstyle : styleOf text = .plain) (column : Nat) :
    trimmedLine column text =
      if trimEnd text.toList = [] then ['\n'] else ' ' :: trimEnd text.toList ++ ['\n'] := by
  obtain ⟨blanks, htext, hblanks⟩ := Text.exists_trimEnd_append text.toList
  have hend : ∀ c ∈ blanks ++ ['\n'], Text.isBlank c = true := by
    intro c hc
    rcases List.mem_append.mp hc with hc | hc
    · exact hblanks c hc
    · rw [List.eq_of_mem_singleton hc]
      rfl
  have hline : ' ' :: textLine (column + 2) text =
      (' ' :: trimEnd text.toList) ++ (blanks ++ ['\n']) := by
    rw [textLine, hstyle, styledLine]
    conv => lhs; rw [htext]
    simp
  rw [trimmedLine, hline, Text.trimEnd_append_of_isBlank hend]
  split
  · rename_i hempty
    rw [hempty]
    rfl
  · rename_i hne
    have hsolid : EndsSolid (' ' :: trimEnd text.toList) :=
      (Text.endsSolid_trimEnd text.toList).append_of_ne_nil hne [' ']
    rw [Text.trimEnd_eq_of_endsSolid hsolid]

/-- A literal block loses the empty lines at its end, and those that hold only white space. -/
theorem trimmedLine_literal {text : String} (hstyle : styleOf text = .literal) (column : Nat) :
    trimmedLine column text = ' ' :: literalHeader text.toList ++
      if trimEnd text.toList = [] then [] else
        literalBody (column + 2) true (trimEnd text.toList) := by
  obtain ⟨blanks, htext, hblanks⟩ := Text.exists_trimEnd_append text.toList
  have hline : ' ' :: textLine (column + 2) text =
      (' ' :: literalHeader text.toList) ++ literalBody (column + 2) true text.toList := by
    rw [textLine, hstyle, styledLine, literal_eq, List.cons_append]
  have hhints := (endsSolid_hints text.toList).append_of_ne_nil (List.cons_ne_nil _ _) [' ']
  rw [trimmedLine, hline]
  split
  -- of white space alone nothing is left but the header
  · rename_i hempty
    rw [hempty, List.nil_append] at htext
    have hend : ∀ c ∈ '\n' :: literalBody (column + 2) true text.toList,
        Text.isBlank c = true := by
      intro c hc
      rcases List.mem_cons.mp hc with rfl | hc
      · rfl
      · exact isBlank_literalBody _ _ (by rwa [htext]) c hc
    have hheader : ' ' :: literalHeader text.toList ++ literalBody (column + 2) true text.toList =
        ([' '] ++ '|' :: (depthHint text.toList ++ chompingHint text.toList)) ++
          '\n' :: literalBody (column + 2) true text.toList := by
      simp [literalHeader]
    rw [hheader, Text.trimEnd_append hhints hend]
    simp [literalHeader]
  · rename_i hne
    obtain ⟨lines, hlines, hsolid, hbody⟩ := exists_literalBody_append (column + 2) true hne
      (Text.endsSolid_trimEnd text.toList)
    have hwritten : literalBody (column + 2) true text.toList =
        lines ++ literalBody (column + 2) false blanks := by
      rw [← hbody, ← htext]
    have hkept : literalBody (column + 2) true (trimEnd text.toList) = lines ++ ['\n'] := by
      have hnothing := hbody []
      rwa [List.append_nil] at hnothing
    rw [hwritten, hkept, ← List.append_assoc, Text.trimEnd_append
      (hsolid.append_of_ne_nil hlines _) (isBlank_literalBody _ _ hblanks), List.append_assoc]

/-- A text that keeps its end is written as if nothing were trimmed. -/
theorem trimmedLine_of_keepsEnd {text : String} (h : keepsEnd text = true) (column : Nat) :
    trimmedLine column text = ' ' :: textLine (column + 2) text := by
  have hquoted : ∀ (body : List Char) (quote : Char), Text.isBlank quote = false →
      textLine (column + 2) text = body ++ [quote] ++ ['\n'] →
      trimmedLine column text = ' ' :: textLine (column + 2) text := by
    intro body quote hquote hwritten
    have hsolid := Text.endsSolid_concat hquote (' ' :: body)
    rw [trimmedLine, hwritten, ← List.cons_append, ← List.cons_append, trimEnd_line hsolid]
  rw [keepsEnd] at h
  cases hstyle : styleOf text with
  | plain =>
      obtain ⟨-, -, hne⟩ := of_styleOf_eq_plain hstyle
      simp only [hstyle, beq_iff_eq] at h
      rw [trimmedLine_plain hstyle, ← h, if_neg hne, textLine, hstyle, styledLine]
      rfl
  | singleQuoted =>
      refine hquoted ('\'' :: singleQuotedBody (column + 2) false text.toList) '\'' rfl ?_
      rw [textLine, hstyle, styledLine, singleQuoted]
  | doubleQuoted =>
      refine hquoted ('"' :: text.toList.flatMap doubleQuotedChar) '"' rfl ?_
      rw [textLine, hstyle, styledLine, doubleQuoted]
  | literal =>
      simp only [hstyle, Bool.and_eq_true, bne_iff_ne, Bool.or_eq_true, beq_iff_eq] at h
      obtain ⟨hne, htext⟩ := h
      have hbody : literalBody (column + 2) true text.toList =
          literalBody (column + 2) true (trimEnd text.toList) := by
        obtain ⟨lines, -, -, hbody⟩ := exists_literalBody_append (column + 2) true hne
          (Text.endsSolid_trimEnd text.toList)
        have hnothing := hbody []
        rw [List.append_nil] at hnothing
        -- one line end is what the printer writes anyway
        rcases htext with htext | htext
        · rw [← htext]
        · conv => lhs; rw [htext]
          rw [hbody, hnothing]
          rfl
      rw [trimmedLine_literal hstyle, if_neg hne, ← hbody, textLine, hstyle, styledLine,
        literal_eq]
      rfl
  | folded => exact absurd hstyle (styleOf_ne_folded text)

end StorageSurvey.Yaml
