import StorageSurvey.Proofs.Yaml.Characters

/-!
# Texts in literal blocks

A printable text is read back from a literal block.  The reader keeps the line ends at the end of a
text apart from the rest, since the sign in the header decides what becomes of them; the writer
chooses the sign so that all of them stay that belong to the text, and no other does.
-/

namespace StorageSurvey.Yaml

namespace BlockScalar

/-! ## What is read -/

/-- A literal block as far as it is read, after the characters `done`, in reverse. -/
structure Body.Holds (body : Body) (inLine : Bool) (done : List Char) : Prop where
  text_eq : body.text = done.dropWhile endsLine
  breaks_eq : body.emptyLines ++ body.lineBreak.toList = done.takeWhile endsLine
  lineBreak_isSome : inLine = false → body.text ≠ [] → body.lineBreak.isSome
  inLine_eq : inLine = done.head?.any fun c => !endsLine c

namespace Body

theorem holds_empty : Holds ⟨[], none, [], false⟩ false [] :=
  ⟨rfl, rfl, fun _ h => absurd rfl h, rfl⟩

variable {body : Body} {inLine : Bool} {done : List Char}

theorem Holds.all_eq (h : body.Holds inLine done) :
    body.emptyLines ++ body.lineBreak.toList ++ body.text = done := by
  rw [h.breaks_eq, h.text_eq, List.takeWhile_append_dropWhile]

/-- Inside a line no line end waits. -/
theorem Holds.breaks_eq_nil (h : body.Holds true done) :
    body.emptyLines = [] ∧ body.lineBreak = none ∧ body.text = done := by
  cases done with
  | nil => cases h.inLine_eq
  | cons c done =>
      have hc : endsLine c = false := by simpa using h.inLine_eq
      have hbreaks := h.breaks_eq
      have htext := h.text_eq
      rw [List.takeWhile_cons_of_neg (by simp [hc]), List.append_eq_nil_iff,
        Option.toList_eq_nil_iff] at hbreaks
      rw [List.dropWhile_cons_of_neg (by simp [hc])] at htext
      exact ⟨hbreaks.1, hbreaks.2, htext⟩

theorem Holds.char (h : body.Holds true done) {c : Char} (hc : endsLine c = false) :
    Holds { body with text := c :: body.text } true (c :: done) := by
  obtain ⟨hlines, hbreak, htext⟩ := h.breaks_eq_nil
  refine ⟨?_, ?_, by simp, by simp [hc]⟩
  · simp [hc, htext]
  · simp [hc, hlines, hbreak]

theorem Holds.lineEnd (h : body.Holds true done) {c : Char} (hc : endsLine c = true) :
    Holds { body with lineBreak := some c } false (c :: done) := by
  obtain ⟨hlines, hbreak, -⟩ := h.breaks_eq_nil
  have hbreaks := h.breaks_eq
  rw [hlines, hbreak] at hbreaks
  refine ⟨?_, ?_, fun _ _ => rfl, by simp [hc]⟩
  · simp [hc, h.text_eq]
  · simp [hc, hlines, ← hbreaks]

theorem Holds.emptyLine (h : body.Holds false done) {c : Char} (hc : endsLine c = true) :
    Holds { body with emptyLines := c :: body.emptyLines } false (c :: done) := by
  refine ⟨?_, ?_, h.lineBreak_isSome, by simp [hc]⟩
  · simp [hc, h.text_eq]
  · simp [hc, ← h.breaks_eq]

theorem Holds.beginLine (h : body.Holds false done) {c : Char} (hc : endsLine c = false) :
    Holds (body.beginLine true c) true (c :: done) := by
  refine ⟨?_, ?_, by simp, by simp [hc]⟩
  · simp [Body.beginLine, hc, ← h.all_eq]
  · simp [Body.beginLine, hc]

end Body

/-! ## Reading the lines -/

theorem bodyFrom_spaces {indent n : Nat} (body : Body) {mark : Mark}
    (hn : mark.column + n ≤ indent) (rest : List Char) :
    bodyFrom true indent body false mark (spaces n ++ rest) =
      bodyFrom true indent body false (mark.after (spaces n)) rest := by
  induction n generalizing mark with
  | zero => rfl
  | succ n ih =>
      have hcolumn : mark.column < indent := by omega
      rw [spaces_succ, List.cons_append, bodyFrom, if_neg (by decide),
        if_pos ⟨rfl, hcolumn⟩, ih, Mark.after_cons, Mark.past_of_not_isBreak mark rfl]
      simp only [Mark.ahead]
      omega

/-- The block ends before a line that is not indented as deeply as its own. -/
theorem bodyFrom_end {indent n : Nat} (body : Body) {mark : Mark} (hmark : mark.column = 0)
    (hn : n < indent) {rest : List Char} (hrest : ∀ c, rest.head? = some c → isGap c = false) :
    bodyFrom true indent body false mark (spaces n ++ rest) =
      some (body, ⟨rest, mark.after (spaces n)⟩) := by
  rw [bodyFrom_spaces body (by omega)]
  cases rest with
  | nil => rfl
  | cons c rest =>
      have hgap := hrest c rfl
      have hspace : c ≠ ' ' := by
        rintro rfl
        cases hgap
      have htab : c ≠ '\t' := by
        rintro rfl
        cases hgap
      have hcolumn : (mark.after (spaces n)).column ≠ indent := by
        simp only [Mark.after_spaces, Mark.ahead]
        omega
      rw [bodyFrom]
      simp [hspace, htab, isBreak_of_isGap hgap, hcolumn]

/-- A line end, inside a line or at its start. -/
theorem bodyFrom_break {indent : Nat} {body : Body} {inLine : Bool} {done : List Char}
    (hbody : body.Holds inLine done) {c : Char} (hprint : isPrintable c = true)
    (hends : endsLine c = true) (mark : Mark) (rest : List Char) :
    ∃ next : Body, next.Holds false (c :: done) ∧
      bodyFrom true indent body inLine mark (c :: rest) =
        bodyFrom true indent next false (mark.past c) rest := by
  have hbreak := isBreak_of_endsLine hprint hends
  cases inLine with
  | true =>
      refine ⟨_, hbody.lineEnd hends, ?_⟩
      rw [bodyFrom, if_pos rfl, if_pos hbreak]
  | false =>
      have hspace : c ≠ ' ' := by
        rintro rfl
        cases hends
      have htab : c ≠ '\t' := by
        rintro rfl
        cases hends
      refine ⟨_, hbody.emptyLine hends, ?_⟩
      rw [bodyFrom, if_neg (by decide), if_neg (fun h => hspace h.1), if_neg (fun h => htab h.1),
        if_pos hbreak]

/-- Another character, inside a line or where a line begins. -/
theorem bodyFrom_char {indent : Nat} {body : Body} {inLine : Bool} {done : List Char}
    (hbody : body.Holds inLine done) {c : Char} (hc : isInline c = true) {mark : Mark}
    (hcolumn : inLine = false → mark.column = indent) (rest : List Char) :
    ∃ next : Body, next.Holds true (c :: done) ∧
      bodyFrom true indent body inLine mark (c :: rest) =
        bodyFrom true indent next true (mark.past c) rest := by
  have hbreak := isBreak_of_isInline hc
  have hends : endsLine c = false := by
    rw [← isBreak_of_isPrintable (isPrintable_of_isInline hc), hbreak]
  rw [Mark.past_of_not_isBreak mark hbreak]
  cases inLine with
  | true =>
      refine ⟨_, hbody.char hends, ?_⟩
      rw [bodyFrom, if_pos rfl, if_neg (by simp [hbreak])]
  | false =>
      have hcolumn := hcolumn rfl
      have hshallow : ¬ mark.column < indent := by omega
      refine ⟨_, hbody.beginLine hends, ?_⟩
      rw [bodyFrom, if_neg (by decide), if_neg (fun h => hshallow h.2),
        if_neg (fun h => hshallow h.2), if_neg (by simp [hbreak]), if_pos hcolumn]

/-- Another character as it is written, after the indentation if its line begins. -/
theorem bodyFrom_writtenChar {indent : Nat} {body : Body} {inLine : Bool} {done : List Char}
    (hbody : body.Holds inLine done) {c : Char} (hc : isInline c = true) {mark : Mark}
    (hmark : inLine = false → mark.column = 0) (rest : List Char) :
    ∃ next : Body, next.Holds true (c :: done) ∧
      bodyFrom true indent body inLine mark
          ((if (!inLine) = true then spaces indent else []) ++ c :: rest) =
        bodyFrom true indent next true
          ((mark.after (if (!inLine) = true then spaces indent else [])).past c) rest := by
  cases inLine with
  | true => exact bodyFrom_char hbody hc (by simp) _
  | false =>
      have hcolumn : mark.column = 0 := hmark rfl
      rw [Bool.not_false, if_pos rfl, bodyFrom_spaces body (by omega)]
      refine bodyFrom_char hbody hc (fun _ => ?_) _
      rw [Mark.after_spaces, Mark.column_ahead hcolumn]

/-- The characters read, in reverse, with the end of the last line. -/
def closed (done : List Char) : List Char :=
  if done.head?.any (fun c => !endsLine c) then '\n' :: done else done

/-- The lines of a text, from anywhere in it, are read up to the line after them. -/
theorem bodyFrom_literalBody {indent n : Nat} (hn : n < indent) {rest : List Char}
    (hrest : ∀ c, rest.head? = some c → isGap c = false) {text : List Char}
    (hprint : ∀ c ∈ text, isPrintable c = true) {inLine : Bool} {body : Body}
    {done : List Char} (hbody : body.Holds inLine done) {mark : Mark}
    (hmark : inLine = false → mark.column = 0) :
    ∃ final, final.Holds false (closed (text.reverse ++ done)) ∧
      bodyFrom true indent body inLine mark
          (literalBody indent (!inLine) text ++ (spaces n ++ rest)) =
        some (final, ⟨rest, mark.after (literalBody indent (!inLine) text ++ spaces n)⟩) := by
  induction text generalizing inLine body done mark with
  | nil =>
      rw [literalBody, List.reverse_nil, List.nil_append, closed, ← hbody.inLine_eq]
      cases inLine with
      | false => exact ⟨body, hbody, bodyFrom_end body (hmark rfl) hn hrest⟩
      | true =>
          -- the printer ends the last line, which the text does not
          obtain ⟨next, hnext, hread⟩ :=
            bodyFrom_break (c := '\n') hbody rfl rfl mark (spaces n ++ rest)
          exact ⟨next, hnext, hread.trans (bodyFrom_end next rfl hn hrest)⟩
  | cons c text ih =>
      have hc := hprint c List.mem_cons_self
      have hprint : ∀ d ∈ text, isPrintable d = true :=
        fun d hd => hprint d (List.mem_cons_of_mem _ hd)
      rw [literalBody, List.reverse_cons, List.append_assoc, List.singleton_append]
      cases hends : endsLine c with
      | true =>
          rw [if_pos rfl, List.cons_append, List.cons_append, Mark.after_cons]
          obtain ⟨next, hnext, hstep⟩ := bodyFrom_break hbody hc hends mark
            (literalBody indent true text ++ (spaces n ++ rest))
          have hcolumn : (mark.past c).column = 0 := by
            rw [Mark.past_of_isBreak mark (isBreak_of_endsLine hc hends)]
          obtain ⟨final, hfinal, hread⟩ := ih hprint hnext fun _ => hcolumn
          exact ⟨final, hfinal, hstep.trans hread⟩
      | false =>
          have hinline : isInline c = true := by simp [isInline, hc, hends]
          rw [if_neg (by decide)]
          obtain ⟨next, hnext, hstep⟩ := bodyFrom_writtenChar hbody hinline hmark
            (literalBody indent false text ++ (spaces n ++ rest))
          obtain ⟨final, hfinal, hread⟩ := ih hprint hnext (by simp)
          refine ⟨final, hfinal, ?_⟩
          rw [List.append_assoc, List.cons_append, hstep, List.append_assoc, List.cons_append,
            Mark.after_append, Mark.after_cons]
          exact hread

/-! ## The line ends at the end -/

/-- The chomping that a text is written with. -/
def chompingOf (text : List Char) : Chomping :=
  match chompingHint text with
  | ['-'] => .strip
  | ['+'] => .keep
  | _ => .clip

/-- Without a sign one line end is kept. -/
theorem value_clip {body : Body} {c last : Char} {before : List Char} (hc : endsLine c = false)
    (hlast : endsLine last = true) (hbody : body.Holds false (last :: c :: before)) :
    body.value .clip = (last :: c :: before).reverse := by
  have htext : body.text = c :: before := by
    simp [hbody.text_eq, hlast, hc]
  have hbreaks : body.emptyLines ++ body.lineBreak.toList = [last] := by
    simp [hbody.breaks_eq, hlast, hc]
  -- the one line end is that of the last line, so no line is empty
  obtain ⟨d, hd⟩ := Option.isSome_iff_exists.mp
    (hbody.lineBreak_isSome rfl (by simp [htext]))
  have hlines : body.emptyLines = [] := by
    rw [hd, Option.toList_some] at hbreaks
    simp only [List.append_eq_singleton_iff, List.cons_ne_nil, and_false, or_false] at hbreaks
    exact hbreaks.1
  rw [hlines, List.nil_append] at hbreaks
  rw [Body.value, hbreaks, htext]
  rfl

/-- The sign in the header keeps what belongs to the text. -/
theorem value_chompingOf {text : List Char} (hne : text ≠ []) {body : Body}
    (hbody : body.Holds false (closed text.reverse)) :
    body.value (chompingOf text) = text := by
  obtain ⟨last, before, hreverse⟩ := List.exists_cons_of_ne_nil (List.reverse_ne_nil_iff.mpr hne)
  have htext : text = (last :: before).reverse := by rw [← hreverse, List.reverse_reverse]
  rw [hreverse, closed, List.head?_cons, Option.any_some] at hbody
  cases hlast : endsLine last with
  | false =>
      have hchomping : chompingOf text = .strip := by
        simp [chompingOf, chompingHint, hreverse, hlast]
      rw [hlast, Bool.not_false, if_pos rfl] at hbody
      have hbodyText : body.text = last :: before := by
        simp [hbody.text_eq, hlast, show endsLine '\n' = true from rfl]
      rw [hchomping, Body.value, List.nil_append, hbodyText, htext]
  | true =>
      rw [hlast, Bool.not_true, if_neg (by decide)] at hbody
      have hkeep : body.value .keep = text := by rw [Body.value, hbody.all_eq, htext]
      cases before with
      | nil =>
          have hchomping : chompingOf text = .keep := by
            simp [chompingOf, chompingHint, hreverse, hlast]
          rw [hchomping, hkeep]
      | cons c before =>
          cases hc : endsLine c with
          | true =>
              have hchomping : chompingOf text = .keep := by
                simp [chompingOf, chompingHint, hreverse, hlast, hc]
              rw [hchomping, hkeep]
          | false =>
              have hchomping : chompingOf text = .clip := by
                simp [chompingOf, chompingHint, hreverse, hlast, hc]
              rw [hchomping, value_clip hc hlast hbody, htext]

/-! ## The header -/

/-- The depth that a text is written with, if its first line needs it. -/
def depthOf (text : List Char) : Option Nat :=
  if (depthHint text).isEmpty then none else some 2

theorem eq_two_of_depthOf {text : List Char} {depth : Nat} (h : depthOf text = some depth) :
    depth = 2 := by
  rw [depthOf] at h
  split at h
  · cases h
  · exact (Option.some.inj h).symm

/-- Where no depth is given, the text begins with a sign that is no blank. -/
theorem exists_of_depthOf_eq_none {text : List Char} (hne : text ≠ [])
    (h : depthOf text = none) :
    ∃ c rest, text = c :: rest ∧ endsLine c = false ∧ c ≠ ' ' := by
  cases text with
  | nil => exact absurd rfl hne
  | cons c rest =>
      rw [depthOf, depthHint] at h
      by_cases hc : c = ' ' ∨ endsLine c = true
      · simp [hc] at h
      · rw [not_or] at hc
        exact ⟨c, rest, rfl, by simpa using hc.2, hc.1⟩

theorem depthHint_cases (text : List Char) : depthHint text = [] ∨ depthHint text = ['2'] := by
  unfold depthHint
  split
  · split
    · exact Or.inr rfl
    · exact Or.inl rfl
  · exact Or.inl rfl

theorem chompingHint_cases (text : List Char) :
    chompingHint text = ['-'] ∨ chompingHint text = ['+'] ∨ chompingHint text = [] := by
  unfold chompingHint
  split
  · exact Or.inl rfl
  · split
    · exact Or.inl rfl
    · split
      · exact Or.inr (Or.inl rfl)
      · split
        · exact Or.inr (Or.inl rfl)
        · exact Or.inr (Or.inr rfl)

theorem header?_hints (text rest : List Char) :
    header? (depthHint text ++ chompingHint text ++ '\n' :: rest) =
      some (⟨chompingOf text, depthOf text⟩, (depthHint text ++ chompingHint text).length) := by
  unfold depthOf chompingOf
  rcases depthHint_cases text with hdepth | hdepth <;>
    rcases chompingHint_cases text with hchomping | hchomping | hchomping <;>
    rw [hdepth, hchomping] <;>
    rfl

/-- Without a depth in the header, the first line of the text tells it. -/
theorem leadingLines_spaces {n : Nat} {mark : Mark} (hmark : mark.column = 0) {c : Char}
    (hc : isInline c = true) (hspace : c ≠ ' ') (rest : List Char) :
    leadingLines [] 0 mark (spaces n ++ c :: rest) =
      some ([], n, ⟨c :: rest, mark.after (spaces n)⟩) := by
  have hskip : ∀ n (mark : Mark), leadingLines [] 0 mark (spaces n ++ c :: rest) =
      leadingLines [] 0 (mark.after (spaces n)) (c :: rest) := by
    intro n
    induction n with
    | zero => exact fun _ => rfl
    | succ n ih =>
        intro mark
        rw [spaces_succ, List.cons_append, leadingLines, if_pos rfl, ih, Mark.after_cons,
          Mark.past_of_not_isBreak mark rfl]
  have htab : c ≠ '\t' := ne_of_isPrintable (isPrintable_of_isInline hc) rfl
  rw [hskip, leadingLines, if_neg hspace, if_neg htab, if_neg (by simp [isBreak_of_isInline hc]),
    Mark.after_spaces, Mark.column_ahead hmark, Nat.zero_max]

end BlockScalar

/-! ## The block -/

open BlockScalar

/-- The signs of a literal block with the end of their line. -/
def literalHeader (text : List Char) : List Char :=
  '|' :: (depthHint text ++ chompingHint text) ++ ['\n']

theorem literal_eq (indent : Nat) (text : List Char) :
    literal indent text = literalHeader text ++ literalBody indent true text := by
  simp [literal, literalHeader]

theorem isInline_hints (text : List Char) :
    ∀ c ∈ '|' :: (depthHint text ++ chompingHint text), isInline c = true := by
  have hletters : ∀ c ∈ '|' :: (depthHint text ++ chompingHint text),
      c = '|' ∨ c = '2' ∨ c = '-' ∨ c = '+' := by
    rcases depthHint_cases text with hdepth | hdepth <;>
      rcases chompingHint_cases text with hchomping | hchomping | hchomping <;>
      simp [hdepth, hchomping]
  intro c hc
  rcases hletters c hc with rfl | rfl | rfl | rfl <;> rfl

/-- The reader after the header of a literal block. -/
theorem blockScalar?_header (text rest : List Char) (indent : Int) (mark : Mark) :
    blockScalar? true indent ⟨literalHeader text ++ rest, mark⟩ =
      match depthOf text with
      | some depth =>
          (bodyFrom true ((max indent 0).toNat + depth) ⟨[], none, [], false⟩ false
            (mark.after (literalHeader text)) rest).map
            fun found => (found.1.value (chompingOf text), found.2)
      | none =>
          (leadingLines [] 0 (mark.after (literalHeader text)) rest).bind fun found =>
            (bodyFrom true (max found.2.1 (max (indent + 1).toNat 1))
              ⟨[], none, found.1, false⟩ false found.2.2.mark found.2.2.text).map
              fun found => (found.1.value (chompingOf text), found.2) := by
  have hwritten : literalHeader text ++ rest =
      '|' :: (depthHint text ++ chompingHint text ++ '\n' :: rest) := by
    simp [literalHeader]
  have hmark : mark.after (literalHeader text) =
      ((mark.ahead 1).ahead (depthHint text ++ chompingHint text).length).past '\n' := by
    have hbreaks : ∀ c ∈ '|' :: (depthHint text ++ chompingHint text), isBreak c = false :=
      fun c hc => isBreak_of_isInline (isInline_hints text c hc)
    rw [literalHeader, Mark.after_append, Mark.after_eq_ahead mark hbreaks, Mark.ahead_ahead,
      List.length_cons, Nat.add_comm]
    rfl
  have hskip : ((Cursor.mk (literalHeader text ++ rest) mark).skip 1).text =
      depthHint text ++ chompingHint text ++ '\n' :: rest := by
    rw [hwritten]
    rfl
  -- behind the hints there is no blank and no comment, only the end of the line
  have hcursor : ((((Cursor.mk (literalHeader text ++ rest) mark).skip 1).skip
      (depthHint text ++ chompingHint text).length).dropWhile isBlank).skipComment =
      ⟨'\n' :: rest, (mark.ahead 1).ahead (depthHint text ++ chompingHint text).length⟩ := by
    rw [hwritten]
    simp only [Cursor.skip, List.drop_succ_cons, List.drop_zero, List.drop_left]
    rfl
  have hlineEnd : ¬ (!atLineEnd ('\n' :: rest)) = true := by simp [atLineEnd, isBreak]
  rw [hmark, blockScalar?]
  simp only [Option.bind_eq_bind]
  rw [hskip, header?_hints]
  simp only [Option.bind_some, hcursor, if_neg hlineEnd, Option.map_eq_bind]
  cases depthOf text with
  | some depth => rfl
  | none => rfl

/-- Lines are read up to the line after them, under the header of a text that begins as they do.
What the header says of the line ends at the end decides what becomes of theirs. -/
theorem blockScalar?_lines {text lines : List Char} (hne : lines ≠ [])
    (hhead : lines.head? = text.head?) (hprint : ∀ c ∈ lines, isPrintable c = true) (indent : Nat)
    (mark : Mark) {n : Nat} (hn : n < indent + 2) {rest : List Char}
    (hrest : ∀ c, rest.head? = some c → isGap c = false) :
    ∃ final : Body, final.Holds false (closed lines.reverse) ∧
      blockScalar? true indent ⟨literalHeader text ++
          (literalBody (indent + 2) true lines ++ (spaces n ++ rest)), mark⟩ =
        some (final.value (chompingOf text),
          ⟨rest, mark.after (literalHeader text ++ literalBody (indent + 2) true lines ++
            spaces n)⟩) := by
  have hcolumn : (mark.after (literalHeader text)).column = 0 := by
    rw [literalHeader, Mark.after_append]
    rfl
  obtain ⟨final, hfinal, hread⟩ :=
    bodyFrom_literalBody hn hrest hprint Body.holds_empty (fun _ => hcolumn)
  rw [List.append_nil] at hfinal
  rw [Bool.not_false] at hread
  refine ⟨final, hfinal, ?_⟩
  rw [blockScalar?_header, List.append_assoc, Mark.after_append]
  cases hdepth : depthOf text with
  | some depth =>
      have hindent : (max (indent : Int) 0).toNat + depth = indent + 2 := by
        rw [eq_two_of_depthOf hdepth]
        omega
      dsimp only
      rw [hindent, hread, Option.map_some]
  | none =>
      -- without a hint the first line tells the depth
      obtain ⟨c, after, rfl⟩ := List.exists_cons_of_ne_nil hne
      have htext : text ≠ [] := by
        rintro rfl
        cases hhead
      obtain ⟨d, others, rfl, hends, hspace⟩ := exists_of_depthOf_eq_none htext hdepth
      obtain rfl : c = d := Option.some.inj hhead
      have hc : isInline c = true := by simp [isInline, hprint c List.mem_cons_self, hends]
      have hbody : literalBody (indent + 2) true (c :: after) =
          spaces (indent + 2) ++ c :: literalBody (indent + 2) false after := by
        rw [literalBody, if_neg (by simp [hends]), if_pos rfl]
      have hdeepest : max (indent + 2) (max ((indent : Int) + 1).toNat 1) = indent + 2 := by omega
      rw [hbody, List.append_assoc, bodyFrom_spaces _ (by omega)] at hread
      rw [hbody, List.append_assoc, List.cons_append, leadingLines_spaces hcolumn hc hspace]
      dsimp only
      rw [Option.bind_some, hdeepest, ← List.cons_append, hread, Option.map_some,
        List.append_assoc]

/-- A text is read back from a literal block, up to the line after it. -/
theorem blockScalar?_literal {text : List Char} (hne : text ≠ [])
    (hprint : ∀ c ∈ text, isPrintable c = true) (indent : Nat) (mark : Mark) {n : Nat}
    (hn : n < indent + 2) {rest : List Char}
    (hrest : ∀ c, rest.head? = some c → isGap c = false) :
    blockScalar? true indent ⟨literal (indent + 2) text ++ (spaces n ++ rest), mark⟩ =
      some (text, ⟨rest, mark.after (literal (indent + 2) text ++ spaces n)⟩) := by
  obtain ⟨final, hfinal, hread⟩ := blockScalar?_lines hne rfl hprint indent mark hn hrest
  rw [value_chompingOf hne hfinal] at hread
  rw [literal_eq, List.append_assoc]
  exact hread

/-- A literal block ends with a line. -/
theorem column_after_literalBody {indent : Nat} {text : List Char}
    (hprint : ∀ c ∈ text, isPrintable c = true) {atLineStart : Bool} {mark : Mark}
    (hmark : atLineStart = true → mark.column = 0) :
    (mark.after (literalBody indent atLineStart text)).column = 0 := by
  induction text generalizing atLineStart mark with
  | nil =>
      rw [literalBody]
      cases atLineStart with
      | true => exact hmark rfl
      | false => rfl
  | cons c text ih =>
      have hrest : ∀ d ∈ text, isPrintable d = true :=
        fun d hd => hprint d (List.mem_cons_of_mem _ hd)
      rw [literalBody]
      split
      · rename_i hends
        rw [Mark.after_cons]
        refine ih hrest fun _ => ?_
        rw [Mark.past_of_isBreak mark (isBreak_of_endsLine (hprint c List.mem_cons_self) hends)]
      · rw [Mark.after_append, Mark.after_cons]
        exact ih hrest (by simp)

end StorageSurvey.Yaml
