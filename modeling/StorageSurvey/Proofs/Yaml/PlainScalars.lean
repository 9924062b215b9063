import StorageSurvey.Proofs.Yaml.SingleQuotes

/-!
# Plain texts

A text that allows to be written plainly is read back up to the colon after it, if it is a key, or
up to the end of its line.  Whether it stands for a text then is another question, which the writer
asks before.
-/

namespace StorageSurvey.Yaml

/-! ## Texts that allow it -/

theorem hasInnerSign_cons {c : Char} {rest : List Char} (h : hasInnerSign (c :: rest) = false) :
    hasInnerSign rest = false ∧ (c = ':' → atSpace rest = false) ∧
      (c = ' ' → rest.head? ≠ some '#') := by
  unfold hasInnerSign at h
  split at h
  case h_1 heq => cases heq
  case h_2 heq =>
    cases heq
    rw [Bool.or_eq_false_iff] at h
    exact ⟨h.2, fun _ => h.1, fun hc => absurd hc (by decide)⟩
  case h_3 => cases h
  case h_4 hcolon hhash heq =>
    cases heq
    refine ⟨h, fun hc => absurd hc (hcolon · ), fun hc hhead => ?_⟩
    obtain ⟨after, rfl⟩ := List.head?_eq_some_iff.mp hhead
    exact hhash after hc rfl

theorem getLast?_ne_of_hasInnerSign {text : List Char} (h : hasInnerSign text = false) :
    text.getLast? ≠ some ':' := by
  induction text with
  | nil => simp
  | cons c rest ih =>
      obtain ⟨hrest, hcolon, -⟩ := hasInnerSign_cons h
      cases rest with
      | nil =>
          rintro hlast
          cases hlast
          cases hcolon rfl
      | cons d rest =>
          rw [List.getLast?_cons_cons]
          exact ih hrest

/-- What `allowsPlain` says, apart. -/
theorem allowsPlain_iff {text : List Char} :
    allowsPlain text = true ↔
      (∀ c ∈ text, isInline c = true) ∧ text.head? ≠ some ' ' ∧ text.getLast? ≠ some ' ' ∧
        hasLeadingSign text = false ∧ hasInnerSign text = false := by
  simp [allowsPlain, isInline, and_assoc]

theorem isLeadingSign_of_hasLeadingSign {c : Char} {rest : List Char}
    (h : hasLeadingSign (c :: rest) = false) :
    isLeadingSign c = false ∧ ((c = '-' ∨ c = '?') → atSpace rest = false) := by
  unfold hasLeadingSign at h
  split at h
  case h_1 => cases h
  case h_2 => cases h
  case h_3 heq =>
    cases heq
    simp only [Bool.or_eq_false_iff, Bool.and_eq_false_iff, beq_eq_false_iff_ne] at h
    refine ⟨h.1, fun hc => ?_⟩
    rcases h.2 with hnot | hspace
    · exact absurd hc (by simp [hnot.1, hnot.2])
    · exact hspace
  case h_4 heq => cases heq

theorem eq_of_append_eq_triple {c : Char} {text rest after : List Char} (hne : text ≠ [])
    (hrest : rest.head? ≠ some c) (h : text ++ rest = c :: c :: c :: after) :
    ∃ tail, text = c :: c :: c :: tail := by
  match text, hne with
  | [_], _ =>
      cases h
      exact absurd rfl hrest
  | [_, _], _ =>
      cases h
      exact absurd rfl hrest
  | _ :: _ :: _ :: tail, _ =>
      cases h
      exact ⟨tail, rfl⟩

/-- A plain text is no mark of a document, unless what follows makes it one. -/
theorem atDocumentMark_append {text rest : List Char} (hne : text ≠ [])
    (hsign : hasLeadingSign text = false) (hdash : rest.head? ≠ some '-')
    (hpoint : rest.head? ≠ some '.') : atDocumentMark (text ++ rest) = false := by
  unfold atDocumentMark
  split
  case h_1 heq =>
    obtain ⟨tail, rfl⟩ := eq_of_append_eq_triple hne hdash heq
    cases hsign
  case h_2 heq =>
    obtain ⟨tail, rfl⟩ := eq_of_append_eq_triple hne hpoint heq
    cases hsign
  case h_3 => rfl

/-! ## The words -/

theorem plainFrom_gap {context : PlainContext} {folding : Folding} {inWord : Bool} {mark : Mark}
    {c : Char} {rest : List Char} (hgap : isGap c = true) (htab : c ≠ '\t') :
    plainFrom context folding inWord mark (c :: rest) =
      plainFrom context (folding.pushGap c) false (mark.past c) rest := by
  rw [plainFrom, if_pos hgap, if_neg fun h => htab h.1]

section Words

variable {context : PlainContext} (hflow : context.inFlow = false)

include hflow

/-- A character that does not end the scalar. -/
theorem plainFrom_char {folding : Folding} {inWord : Bool} {mark : Mark} {c : Char}
    {rest : List Char} (hgap : isGap c = false)
    (hstart : inWord = false →
      c ≠ '#' ∧ (context.indent ≤ mark.column ∨ folding.text = []))
    (hmark : mark.column = 0 → atDocumentMark (c :: rest) = false)
    (hcolon : c = ':' → atGap rest = false) :
    plainFrom context folding inWord mark (c :: rest) =
      plainFrom context (folding.push c) true (mark.ahead 1) rest := by
  -- none of the ways in which a scalar ends is taken here
  have hdedent : (!inWord && !context.inFlow && decide (mark.column < context.indent) &&
      !folding.text.isEmpty) = false := by
    rw [hflow]
    cases inWord with
    | true => rfl
    | false =>
        rcases (hstart rfl).2 with hcolumn | htext
        · simp [Nat.not_lt.mpr hcolumn]
        · simp [htext]
  have hdocument : ¬ (mark.column = 0 ∧ atDocumentMark (c :: rest) = true) := by
    rintro ⟨hcolumn, h⟩
    rw [hmark hcolumn] at h
    cases h
  have hcomment : (!inWord && c == '#') = false := by
    cases inWord with
    | true => rfl
    | false => simp [(hstart rfl).1]
  have hends : context.endsBefore c rest = false := by
    rw [PlainContext.endsBefore, hflow, Bool.false_and, Bool.or_false, Bool.and_eq_false_iff,
      beq_eq_false_iff_ne]
    by_cases hc : c = ':'
    · exact Or.inr (hcolon hc)
    · exact Or.inl hc
  rw [plainFrom]
  simp only [hgap, hdedent, hdocument, hcomment, hends, if_false, Bool.false_eq_true]
  simp only [hflow, Bool.false_and, if_false, Bool.false_eq_true]

end Words

/-! ## One line -/

namespace Folding

/-- A scalar of one line as far as it is read, the characters in reverse: the spaces at the end are
a gap as long as no word follows them. -/
def ofLine (done : List Char) : Folding :=
  ⟨done.dropWhile (· == ' '), .blanks (done.takeWhile (· == ' '))⟩

theorem ofLine_push {c : Char} (hc : c ≠ ' ') (done : List Char) :
    (ofLine done).push c = ofLine (c :: done) := by
  simp [ofLine, push, settle, Gap.folded, Gap.none, hc, List.takeWhile_append_dropWhile]

theorem ofLine_of_word {c : Char} (hc : c ≠ ' ') (done : List Char) :
    ofLine (c :: done) = ⟨c :: done, .none⟩ := by
  simp [ofLine, hc, Gap.none]

end Folding

/-- Whether the last of the characters read belongs to a word. -/
def isInWord (done : List Char) : Bool :=
  done.head?.any (· != ' ')

/-- The next character of a line, which is a space or belongs to a word. -/
theorem plainFrom_next {context : PlainContext} (hflow : context.inFlow = false) {c : Char}
    (hc : isInline c = true) {done : List Char} {mark : Mark}
    (hcomment : isInWord done = false → c ≠ '#')
    (hcolumn : context.indent ≤ mark.column ∨ done = []) {rest : List Char}
    (hcolon : c = ':' → atGap rest = false)
    (hmark : mark.column = 0 → atDocumentMark (c :: rest) = false) :
    plainFrom context (.ofLine done) (isInWord done) mark (c :: rest) =
      plainFrom context (.ofLine (c :: done)) (isInWord (c :: done)) (mark.ahead 1) rest := by
  by_cases hspace : c = ' '
  · subst hspace
    exact plainFrom_gap rfl (by decide)
  · have hgap : isGap c = false := by simp [isGap_of_isInline hc, hspace]
    have hword : isInWord (c :: done) = true := by simp [isInWord, hspace]
    have hstart : isInWord done = false →
        c ≠ '#' ∧ (context.indent ≤ mark.column ∨ (Folding.ofLine done).text = []) := by
      intro hdone
      refine ⟨hcomment hdone, ?_⟩
      rcases hcolumn with hcolumn | rfl
      · exact Or.inl hcolumn
      · exact Or.inr rfl
    rw [plainFrom_char hflow hgap hstart hmark hcolon, Folding.ofLine_push hspace, hword]

/-- The characters of a plain text, or of the start of one, are taken one by one.  The first may
stand one column before those that the lines of the scalar must reach. -/
theorem plainFrom_line {context : PlainContext} (hflow : context.inFlow = false)
    {text done more : List Char} (hinline : ∀ c ∈ text, isInline c = true)
    (hinner : hasInnerSign (text ++ more) = false)
    (hcomment : isInWord done = false → text.head? ≠ some '#') {mark : Mark}
    (hcolumn : context.indent ≤ mark.column ∨ done = [] ∧ context.indent ≤ mark.column + 1)
    {rest : List Char} (hlast : text.getLast? = some ':' → atGap rest = false)
    (hmark : mark.column = 0 → atDocumentMark (text ++ rest) = false) :
    plainFrom context (.ofLine done) (isInWord done) mark (text ++ rest) =
      plainFrom context (.ofLine (text.reverse ++ done)) (isInWord (text.reverse ++ done))
        (mark.after text) rest := by
  induction text generalizing done mark with
  | nil => rfl
  | cons c text ih =>
      have hc := hinline c List.mem_cons_self
      have hrest : ∀ d ∈ text, isInline d = true :=
        fun d hd => hinline d (List.mem_cons_of_mem _ hd)
      rw [List.cons_append] at hinner
      obtain ⟨hinner, hcolon, hspace⟩ := hasInnerSign_cons hinner
      have hhash : isInWord done = false → c ≠ '#' := by
        intro hword hc
        exact hcomment hword (by rw [hc]; rfl)
      -- a colon is followed by the rest of its word, or by what is after the text
      have hgap : c = ':' → atGap (text ++ rest) = false := by
        intro hc
        have hspace := hcolon hc
        cases text with
        | nil => exact hlast (by rw [hc]; rfl)
        | cons d text =>
            rw [List.cons_append, atGap, isGap_of_isInline (hrest d List.mem_cons_self)]
            exact hspace
      rw [List.cons_append, plainFrom_next hflow hc hhash (hcolumn.imp_right And.left) hgap hmark,
        ih hrest hinner]
      · rw [Mark.after_cons, Mark.past_of_not_isBreak mark (isBreak_of_isInline hc)]
        simp
      · intro hword hhash
        refine hspace (by simpa [isInWord] using hword) ?_
        rw [List.head?_append, hhash, Option.some_or]
      · left
        simp only [Mark.ahead]
        omega
      · intro hcolon
        refine hlast ?_
        rw [List.getLast?_cons, hcolon]
        rfl
      · simp [Mark.ahead]

/-- A plain text is read up to its last word. -/
theorem plainFrom_text {context : PlainContext} (hflow : context.inFlow = false)
    {text : List Char} (hne : text ≠ []) (hallows : allowsPlain text = true) {mark : Mark}
    (hcolumn : context.indent ≤ mark.column + 1) {rest : List Char}
    (hdash : rest.head? ≠ some '-') (hpoint : rest.head? ≠ some '.') :
    plainFrom context .empty false mark (text ++ rest) =
      plainFrom context ⟨text.reverse, .none⟩ true (mark.after text) rest := by
  obtain ⟨hinline, -, hlast, hsign, hinner⟩ := allowsPlain_iff.mp hallows
  have hhash : text.head? ≠ some '#' := by
    intro hhead
    obtain ⟨after, rfl⟩ := List.head?_eq_some_iff.mp hhead
    cases (isLeadingSign_of_hasLeadingSign hsign).1
  have hcolon : text.getLast? ≠ some ':' := getLast?_ne_of_hasInnerSign hinner
  have hread := plainFrom_line hflow hinline (by rwa [List.append_nil]) (fun _ => hhash)
    (Or.inr ⟨rfl, hcolumn⟩) (fun h => absurd h hcolon)
    (fun _ => atDocumentMark_append hne hsign hdash hpoint)
  obtain ⟨last, before, hreverse⟩ := List.exists_cons_of_ne_nil (List.reverse_ne_nil_iff.mpr hne)
  have hlast : last ≠ ' ' := by
    rintro rfl
    rw [List.getLast?_eq_head?_reverse, hreverse] at hlast
    exact hlast rfl
  rw [List.append_nil, hreverse, Folding.ofLine_of_word hlast] at hread
  have hword : isInWord (last :: before) = true := by simp [isInWord, hlast]
  rw [hword] at hread
  rw [hreverse]
  exact hread

/-! ## Where a plain text ends -/

/-- A key ends before its colon. -/
theorem plainFrom_colon {context : PlainContext} (hflow : context.inFlow = false)
    {rest : List Char} (hrest : atGap rest = true) (folding : Folding) (inWord : Bool)
    (mark : Mark) :
    plainFrom context folding inWord mark (':' :: rest) =
      some (folding.value, folding.gap.crossesLine, ⟨':' :: rest, mark⟩) := by
  have hends : context.endsBefore ':' rest = true := by simp [PlainContext.endsBefore, hrest]
  rw [plainFrom]
  simp [hends, hflow, show isGap ':' = false by decide, atDocumentMark]

theorem plainFrom_spaces {context : PlainContext} (folding : Folding) {first : Option Char}
    {others : List Char} (hgap : folding.gap = .lines first others) (n : Nat) (mark : Mark)
    (rest : List Char) :
    plainFrom context folding false mark (spaces n ++ rest) =
      plainFrom context folding false (mark.after (spaces n)) rest := by
  induction n generalizing mark with
  | zero => rfl
  | succ n ih =>
      rw [spaces_succ, List.cons_append, plainFrom_gap rfl (by decide),
        Folding.pushGap_space hgap, ih, Mark.after_cons]

/-- A value ends with its line, since the next line is indented less; only its indentation is read
too. -/
theorem plainFrom_lineEnd {context : PlainContext} (hflow : context.inFlow = false)
    {text : List Char} (hne : text ≠ []) (mark : Mark) {n : Nat} {rest : List Char}
    (hrest : ∀ c, rest.head? = some c → isGap c = false ∧ n < context.indent) :
    plainFrom context ⟨text, .none⟩ true mark ('\n' :: spaces n ++ rest) =
      some (text.reverse, true, ⟨rest, mark.after ('\n' :: spaces n)⟩) := by
  have hcolumn : (mark.after ('\n' :: spaces n)).column = n := by
    rw [Mark.after_cons, Mark.after_spaces]
    simp [Mark.past, isBreak, Mark.ahead]
  rw [List.cons_append, plainFrom_gap rfl (by decide), plainFrom_spaces _ rfl]
  cases rest with
  | nil => rfl
  | cons c rest =>
      obtain ⟨hgap, hdedent⟩ := hrest c rfl
      have hdedent : (mark.after ('\n' :: spaces n)).column < context.indent := by
        rwa [hcolumn]
      rw [Mark.after_cons] at hdedent
      rw [plainFrom, if_neg (by simp [hgap]), if_pos]
      · rfl
      · simp [hflow, hdedent, Folding.pushGap, isBreak, hne]

end StorageSurvey.Yaml
