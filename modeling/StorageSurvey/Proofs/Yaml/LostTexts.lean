import StorageSurvey.Proofs.Yaml.Occurrences
import StorageSurvey.Proofs.Yaml.Trimming

/-!
# Runs over trimmed lines

Where the last text of a document does not keep its end, a run over what is left of its lines gives
tokens, but none with that text.  After the first of them at most a colon is left and the end of the
line, whatever layout the reader is in by then, so the tokens after it need not be known.
-/

namespace StorageSurvey.Yaml.Layout

open StorageSurvey.Text (EndsSolid trimEnd)

/-! ## Places after a step -/

section Cursors

variable {layout next : Layout}

theorem cursor_of_dropStale? (h : layout.dropStale? = some next) :
    next.cursor = layout.cursor := by
  obtain ⟨outerPending, -, h⟩ := Option.bind_eq_some_iff.mp h
  obtain ⟨pending, -, heq⟩ := Option.bind_eq_some_iff.mp h
  cases heq
  rfl

theorem cursor_of_dropPending? (h : layout.dropPending? = some next) :
    next.cursor = layout.cursor := by
  rw [dropPending?] at h
  split at h
  · split at h
    · cases h
    · cases h
      rfl
  · cases h
    rfl

theorem cursor_closeBlocks (column : Int) :
    (layout.closeBlocks column).cursor = layout.cursor := by
  rw [closeBlocks]
  split <;> rfl

theorem cursor_openBlock (column position : Nat) (opening : Token) :
    (layout.openBlock column position opening).cursor = layout.cursor := by
  rw [openBlock]
  split <;> rfl

theorem cursor_of_item? (h : layout.item? = some next) :
    next.cursor = layout.cursor.skip 1 := by
  rw [item?] at h
  split at h
  · cases h
  · obtain ⟨dropped, hdropped, heq⟩ := Option.bind_eq_some_iff.mp h
    cases heq
    change dropped.cursor.skip 1 = layout.cursor.skip 1
    rw [cursor_of_dropPending? hdropped, cursor_openBlock]

theorem cursor_of_key? (h : layout.key? = some next) : next.cursor = layout.cursor.skip 1 := by
  rw [key?] at h
  split at h
  · cases h
  · obtain ⟨dropped, hdropped, heq⟩ := Option.bind_eq_some_iff.mp h
    cases heq
    change dropped.cursor.skip 1 = layout.cursor.skip 1
    rw [cursor_of_dropPending? hdropped, cursor_openBlock]

theorem cursor_of_value? (h : layout.value? = some next) :
    next.cursor = layout.cursor.skip 1 := by
  rw [value?] at h
  split at h
  · cases h
    exact congrArg (·.skip 1) (cursor_openBlock _ _ _)
  · split at h
    · cases h
    · cases h
      exact congrArg (·.skip 1) (cursor_openBlock _ _ _)

theorem cursor_of_beforeToken? (h : layout.beforeToken? = some next) :
    next.cursor = layout.skipGap.cursor := by
  obtain ⟨dropped, hdropped, rfl⟩ := Option.map_eq_some_iff.mp h
  rw [cursor_closeBlocks, cursor_of_dropStale? hdropped]

end Cursors

/-! ## The last steps -/

/-- A run that ends has taken a token. -/
theorem exists_of_run? {steps : Nat} {layout : Layout} {tokens : List Token}
    (h : run? steps layout = some tokens) :
    ∃ here next fewer, layout.beforeToken? = some here ∧ here.takeToken? = some next ∧
      (if next.tokens.head? = some .streamEnd then some next.tokens.reverse
        else run? fewer next) = some tokens := by
  cases steps with
  | zero => cases h
  | succ steps =>
      rw [run?] at h
      cases hnext : layout.next? with
      | none =>
          rw [hnext] at h
          cases h
      | some next =>
          rw [hnext] at h
          rw [next?_eq] at hnext
          obtain ⟨here, hhere, htaken⟩ := Option.bind_eq_some_iff.mp hnext
          exact ⟨here, next, steps, hhere, htaken, h⟩

section Last

variable {content : String} {steps : Nat} {layout : Layout} {tokens : List Token}

/-- At the end of the last line no scalar is left. -/
theorem countP_of_run?_end (htext : layout.skipGap.cursor.text = [])
    (h : run? steps layout = some tokens) :
    tokens.countP (Token.isScalar content) = layout.tokens.countP (Token.isScalar content) := by
  obtain ⟨here, next, fewer, hhere, htaken, htokens⟩ := exists_of_run? h
  have hcursor : here.cursor.text = [] := by rw [cursor_of_beforeToken? hhere, htext]
  rw [takeToken?, hcursor] at htaken
  obtain ⟨ended, hended, hnext⟩ := Option.bind_eq_some_iff.mp htaken
  rw [tokens_of_dropStale? hnext, if_pos (head?_of_atEnd? here hended)] at htokens
  rw [← Option.some.inj htokens, List.countP_reverse, keeps_atEnd? here rfl rfl _ hended,
    countP_of_beforeToken? rfl hhere]

theorem skipGap_of_lineEnd (htext : layout.cursor.text = ['\n']) :
    layout.skipGap.cursor.text = [] := by
  simp [skipGap, htext, skipGapFrom, isBreak]

/-- The sign of an item, of a key or of a value at the end of its line is no scalar. -/
theorem countP_of_run?_sign {c : Char} (hc : c = '-' ∨ c = '?' ∨ c = ':')
    (htext : layout.skipGap.cursor.text = [c, '\n']) (h : run? steps layout = some tokens) :
    tokens.countP (Token.isScalar content) = layout.tokens.countP (Token.isScalar content) := by
  obtain ⟨here, next, fewer, hhere, htaken, htokens⟩ := exists_of_run? h
  have hcursor : here.cursor.text = [c, '\n'] := by rw [cursor_of_beforeToken? hhere, htext]
  rw [takeToken?, hcursor] at htaken
  obtain ⟨taken, hsign, hnext⟩ := Option.bind_eq_some_iff.mp htaken
  dsimp only at hsign
  -- whichever sign it is, the reader goes on behind it
  have htaken : taken.tokens.countP (Token.isScalar content) =
      here.tokens.countP (Token.isScalar content) ∧ taken.cursor = here.cursor.skip 1 := by
    rcases hc with rfl | rfl | rfl
    · rw [token?_item rfl] at hsign
      exact ⟨keeps_item? here rfl rfl _ hsign, cursor_of_item? hsign⟩
    · rw [token?_key rfl] at hsign
      exact ⟨keeps_key? here rfl rfl _ hsign, cursor_of_key? hsign⟩
    · rw [token?_value rfl] at hsign
      exact ⟨keeps_value? here rfl rfl rfl _ hsign, cursor_of_value? hsign⟩
  have hkept : next.tokens.countP (Token.isScalar content) =
      layout.tokens.countP (Token.isScalar content) := by
    rw [tokens_of_dropStale? hnext, htaken.1, countP_of_beforeToken? rfl hhere]
  -- only the end of the line is left for the next step
  have hline : next.cursor.text = ['\n'] := by
    rw [cursor_of_dropStale? hnext, htaken.2, Cursor.skip, hcursor]
    rfl
  split at htokens
  · rw [← Option.some.inj htokens, List.countP_reverse, hkept]
  · rw [countP_of_run?_end (skipGap_of_lineEnd hline) htokens, hkept]

end Last

/-! ## Plain texts -/

section Plain

variable {context : PlainContext} {kept blanks : List Char} {mark : Mark}

/-- The start of a plain text that ends with a colon is read up to the colon. -/
theorem exists_plainFrom_colon (hflow : context.inFlow = false)
    (hinline : ∀ c ∈ kept ++ [':'], isInline c = true)
    (hinner : hasInnerSign (kept ++ [':'] ++ blanks) = false)
    (hhash : (kept ++ [':']).head? ≠ some '#') (hcolumn : context.indent ≤ mark.column + 1)
    (hmark : mark.column ≠ 0) :
    ∃ word crossesLine here,
      plainFrom context .empty false mark (kept ++ [':', '\n']) =
        some (word, crossesLine, ⟨[':', '\n'], here⟩) ∧ word.length ≤ kept.length := by
  have hhash' : kept.head? ≠ some '#' := by
    intro hhead
    obtain ⟨rest, rfl⟩ := List.head?_eq_some_iff.mp hhead
    exact hhash rfl
  let done := kept.reverse ++ []
  rw [List.append_assoc, List.singleton_append] at hinner
  have hread : plainFrom context (.ofLine []) (isInWord []) mark (kept ++ [':', '\n']) =
      plainFrom context (.ofLine done) (isInWord done) (mark.after kept) [':', '\n'] :=
    plainFrom_line hflow (fun c hc => hinline c (List.mem_append_left _ hc)) hinner
      (fun _ => hhash') (Or.inr ⟨rfl, hcolumn⟩) (fun _ => rfl) (fun h => absurd h hmark)
  have hend : plainFrom context (.ofLine done) (isInWord done) (mark.after kept)
      [':', '\n'] = some ((Folding.ofLine done).value, (Folding.ofLine done).gap.crossesLine,
        ⟨[':', '\n'], mark.after kept⟩) :=
    plainFrom_colon hflow rfl _ _ _
  have hlength : (Folding.ofLine done).value.length ≤ kept.length := by
    have hdone : done.length = kept.length := by simp [done]
    calc (Folding.ofLine done).value.length
        = (done.dropWhile (· == ' ')).length := List.length_reverse
      _ ≤ done.length := (List.dropWhile_sublist _).length_le
      _ = kept.length := hdone
  exact ⟨_, _, _, hread.trans hend, hlength⟩

/-- The start of a plain text with another end is read up to the end of its line. -/
theorem exists_plainFrom_lineEnd (hflow : context.inFlow = false) (hne : kept ≠ [])
    (hsolid : EndsSolid kept) (hinline : ∀ c ∈ kept, isInline c = true)
    (hinner : hasInnerSign (kept ++ blanks) = false) (hhash : kept.head? ≠ some '#')
    (hcolon : kept.getLast? ≠ some ':') (hcolumn : context.indent ≤ mark.column + 1)
    (hmark : mark.column ≠ 0) :
    ∃ crossesLine here,
      plainFrom context .empty false mark (kept ++ ['\n']) =
        some (kept, crossesLine, ⟨[], here⟩) := by
  have hread : plainFrom context (.ofLine []) (isInWord []) mark (kept ++ ['\n']) =
      plainFrom context (.ofLine (kept.reverse ++ [])) (isInWord (kept.reverse ++ []))
        (mark.after kept) ['\n'] :=
    plainFrom_line hflow hinline hinner (fun _ => hhash) (Or.inr ⟨rfl, hcolumn⟩)
      (fun h => absurd h hcolon) (fun h => absurd h hmark)
  -- the last character is no space, so the reader is inside a word when the line ends
  obtain ⟨last, before, hreverse⟩ :=
    List.exists_cons_of_ne_nil (List.reverse_ne_nil_iff.mpr hne)
  have hlast : last ≠ ' ' := by
    rintro rfl
    have hblank := hsolid ' ' (by rw [List.getLast?_eq_head?_reverse, hreverse]; rfl)
    cases hblank
  have hword : isInWord (last :: before) = true := by simp [isInWord, hlast]
  rw [List.append_nil, hreverse, Folding.ofLine_of_word hlast, hword, ← hreverse] at hread
  have hend : plainFrom context ⟨kept.reverse, .none⟩ true (mark.after kept) ['\n'] =
      some (kept.reverse.reverse, true, ⟨[], (mark.after kept).after ['\n']⟩) :=
    plainFrom_lineEnd hflow (n := 0) (List.reverse_ne_nil_iff.mpr hne) _ (by simp)
  rw [List.reverse_reverse] at hend
  exact ⟨_, _, hread.trans hend⟩

/-- The start of a plain text is read up to the end of its line, or up to a colon there. -/
theorem exists_plainFrom_kept (hflow : context.inFlow = false) (hne : kept ≠ [])
    (hsolid : EndsSolid kept) (hinline : ∀ c ∈ kept, isInline c = true)
    (hinner : hasInnerSign (kept ++ blanks) = false) (hhash : kept.head? ≠ some '#')
    (hcolumn : context.indent ≤ mark.column + 1) (hmark : mark.column ≠ 0) :
    ∃ word crossesLine after here,
      plainFrom context .empty false mark (kept ++ ['\n']) =
        some (word, crossesLine, ⟨after, here⟩) ∧
      word.length ≤ kept.length ∧ (after = [] ∨ after = [':', '\n']) := by
  by_cases hcolon : kept.getLast? = some ':'
  · obtain ⟨before, rfl⟩ := List.getLast?_eq_some_iff.mp hcolon
    obtain ⟨word, crossesLine, here, hread, hlength⟩ :=
      exists_plainFrom_colon hflow hinline hinner hhash hcolumn hmark
    rw [List.append_assoc]
    refine ⟨word, crossesLine, _, here, hread, ?_, Or.inr rfl⟩
    exact Nat.le_trans hlength (by simp)
  · obtain ⟨crossesLine, here, hread⟩ :=
      exists_plainFrom_lineEnd hflow hne hsolid hinline hinner hhash hcolon hcolumn hmark
    exact ⟨kept, crossesLine, _, here, hread, Nat.le_refl _, Or.inl rfl⟩

end Plain

/-- Trimming a text that it changes makes the text shorter. -/
theorem length_trimEnd_lt {text : List Char} (h : text ≠ trimEnd text) :
    (trimEnd text).length < text.length := by
  obtain ⟨blanks, htext, -⟩ := Text.exists_trimEnd_append text
  have hblanks : blanks ≠ [] := by
    rintro rfl
    exact h (by rw [← List.append_nil (trimEnd _), ← htext])
  have hpos := List.length_pos_iff.mpr hblanks
  calc (trimEnd text).length
      < (trimEnd text).length + blanks.length := by omega
    _ = text.length := by rw [← List.length_append, ← htext]

section Trimmed

variable {content : String} {tokens all : List Token} {column : Nat} {outer : List Int}
  {keyAllowed : Bool} {mark : Mark} {steps : Nat}

/-- One space stands before what is on the line of a key. -/
theorem skipGap_space {c : Char} (hsign : isSign c = true) (rest : List Char) :
    (outside tokens column outer none keyAllowed mark (' ' :: c :: rest)).skipGap =
      outside tokens column outer none keyAllowed (mark.after (spaces 1)) (c :: rest) :=
  skipGap_spaces (atSign_cons hsign rest) 1

/-- What stands on the line of a key is in the block of the key, so no block ends before it. -/
theorem beforeToken?_space {c : Char} (hsign : isSign c = true) (hcolumn : column < mark.column)
    (rest : List Char) :
    (outside tokens column outer none keyAllowed mark (' ' :: c :: rest)).beforeToken? =
      some (outside tokens column outer none keyAllowed (mark.after (spaces 1)) (c :: rest)) := by
  rw [beforeToken?, skipGap_space hsign, dropStale?_none, Option.map_some]
  refine congrArg some (closeBlocks_of_le ?_)
  rw [Mark.after_spaces]
  change (column : Int) ≤ ((mark.column + 1 : Nat) : Int)
  omega

/-- A scalar with another text, and a colon at most before the end of its line. -/
theorem countP_of_run?_scalar {c : Char} {rest after : List Char} {style : Style} {word : String}
    {pending : Option PendingKey} {allowed : Bool} {here : Mark} (hsign : isSign c = true)
    (hcolumn : column < mark.column)
    (htoken : (outside tokens column outer none keyAllowed (mark.after (spaces 1))
      (c :: rest)).token? c rest =
        some (outside (.scalar style word :: tokens) column outer pending allowed here after))
    (hword : word ≠ content) (hafter : after = [] ∨ after = [':', '\n'])
    (h : run? steps (outside tokens column outer none keyAllowed mark (' ' :: c :: rest)) =
      some all) :
    all.countP (Token.isScalar content) = tokens.countP (Token.isScalar content) := by
  -- the first step takes the scalar; what is left is a colon at most
  obtain ⟨place, next, fewer, hplace, htaken, htokens⟩ := exists_of_run? h
  rw [beforeToken?_space hsign hcolumn, Option.some.injEq] at hplace
  rw [← hplace, takeToken?] at htaken
  change ((outside tokens column outer none keyAllowed (mark.after (spaces 1))
    (c :: rest)).token? c rest).bind dropStale? = some next at htaken
  rw [htoken, Option.bind_some] at htaken
  have hnext : next.tokens = .scalar style word :: tokens := tokens_of_dropStale? htaken
  have hcount : next.tokens.countP (Token.isScalar content) =
      tokens.countP (Token.isScalar content) := by
    rw [hnext, List.countP_cons_of_neg]
    simpa [Token.isScalar] using hword
  have hcursor : next.cursor.text = after := by
    rw [cursor_of_dropStale? htaken]
    rfl
  rw [if_neg (by simp [hnext])] at htokens
  rcases hafter with rfl | rfl
  · have hskip : next.skipGap.cursor.text = [] := by simp [skipGap, hcursor, skipGapFrom]
    rw [countP_of_run?_end hskip htokens, hcount]
  · have hskip : next.skipGap.cursor.text = [':', '\n'] := by
      simp [skipGap, hcursor, skipGapFrom, isBreak, isSeparator, byteOrderMark]
    rw [countP_of_run?_sign (Or.inr (Or.inr rfl)) hskip htokens, hcount]

/-- The start of a plain text on its line, which is read as a shorter text than the whole. -/
theorem countP_of_run?_start {c : Char} {rest blanks : List Char}
    (hallows : allowsPlain (c :: rest ++ blanks) = true) (hsolid : EndsSolid (c :: rest))
    (hshorter : (c :: rest).length < content.toList.length)
    (hword : c = '-' ∨ c = '?' ∨ c = ':' → rest ≠ []) (hcolumn : column < mark.column)
    (h : run? steps (outside tokens column outer none keyAllowed mark
      (' ' :: c :: (rest ++ ['\n']))) = some all) :
    all.countP (Token.isScalar content) = tokens.countP (Token.isScalar content) := by
  obtain ⟨hinline, -, -, hleading, hinner⟩ := allowsPlain_iff.mp hallows
  have hsign : isSign c = true := isSign_of_allowsPlain hallows
  have hgap : isGap c = false := isGap_of_isSign hsign
  have hnext : c = '-' ∨ c = '?' ∨ c = ':' → atGap (rest ++ ['\n']) = false := by
    intro hsign
    obtain ⟨d, others, rfl⟩ := List.exists_cons_of_ne_nil (hword hsign)
    exact atGap_of_hasLeadingSign hallows hsign []
  have hinlineKept : ∀ d ∈ c :: rest, isInline d = true :=
    fun d hd => hinline d (List.mem_append_left _ hd)
  have hhash : (c :: rest).head? ≠ some '#' := by
    rintro hhead
    cases hhead
    cases hsign
  have hmark : (mark.after (spaces 1)).column = mark.column + 1 := by
    rw [Mark.after_spaces]
    rfl
  have hindent : ((column : Int) + 1).toNat ≤ (mark.after (spaces 1)).column + 1 := by omega
  obtain ⟨word, crossesLine, after, here, hread, hlength, hafter⟩ :=
    @exists_plainFrom_kept ⟨false, ((column : Int) + 1).toNat⟩ (c :: rest) blanks _ rfl
      (List.cons_ne_nil c rest) hsolid hinlineKept hinner hhash hindent (by omega)
  have htoken : (outside tokens column outer none keyAllowed (mark.after (spaces 1))
      (c :: (rest ++ ['\n']))).token? c (rest ++ ['\n']) =
      (outside tokens column outer none keyAllowed (mark.after (spaces 1))
        (c :: (rest ++ ['\n']))).plain? :=
    token?_word hgap (isLeadingSign_of_hasLeadingSign hleading).1
      (fun hzero => absurd hzero (by omega)) hnext none
  refine countP_of_run?_scalar hsign hcolumn (htoken.trans (plain?_outside hread)) ?_ hafter h
  -- the word is too short to be the text
  rintro rfl
  rw [String.toList_ofList] at hshorter
  omega

/-- What a plain text leaves on its line is no more than a shorter text. -/
theorem countP_of_run?_plain (hstyle : styleOf content = .plain)
    (hkept : keepsEnd content = false) (hcolumn : column < mark.column)
    (h : run? steps (outside tokens column outer none keyAllowed mark
      (trimmedLine column content)) = some all) :
    all.countP (Token.isScalar content) = tokens.countP (Token.isScalar content) := by
  have hshorter : (trimEnd content.toList).length < content.toList.length :=
    length_trimEnd_lt (by simpa [keepsEnd, hstyle] using hkept)
  obtain ⟨blanks, htext, -⟩ := Text.exists_trimEnd_append content.toList
  have hsolid := Text.endsSolid_trimEnd content.toList
  have hallows := (of_styleOf_eq_plain hstyle).2.1
  rw [trimmedLine_plain hstyle] at h
  rw [htext] at hallows
  generalize trimEnd content.toList = kept at *
  cases kept with
  | nil => exact countP_of_run?_end (skipGap_of_lineEnd rfl) h
  | cons c rest =>
      rw [if_neg (List.cons_ne_nil c rest)] at h
      by_cases hc : (c = '-' ∨ c = '?' ∨ c = ':') ∧ rest = []
      · -- a sign that stands alone is no longer the start of a word
        obtain ⟨hc, rfl⟩ := hc
        have hskip : (outside tokens column outer none keyAllowed mark [' ', c, '\n']).skipGap =
            outside tokens column outer none keyAllowed (mark.after (spaces 1)) [c, '\n'] :=
          skipGap_space (isSign_of_allowsPlain hallows) ['\n']
        exact countP_of_run?_sign hc (congrArg (·.cursor.text) hskip) h
      · exact countP_of_run?_start hallows hsolid hshorter (fun hsign hrest => hc ⟨hsign, hrest⟩)
          hcolumn h

/-! ## Literal blocks -/

/-- What the lines of a solid text give under the header of any text: the text, with at most one
line end. -/
theorem value_of_holds_closed {kept : List Char} (hne : kept ≠ []) (hsolid : EndsSolid kept)
    {body : BlockScalar.Body} (hbody : body.Holds false (BlockScalar.closed kept.reverse))
    (chomping : Chomping) :
    body.value chomping = kept ∨ body.value chomping = kept ++ ['\n'] := by
  obtain ⟨last, before, hreverse⟩ :=
    List.exists_cons_of_ne_nil (List.reverse_ne_nil_iff.mpr hne)
  have hkept : (last :: before).reverse = kept := by rw [← hreverse, List.reverse_reverse]
  -- the text is solid, so its last character ends no line
  have hends : endsLine last = false := by
    cases hends : endsLine last with
    | false => rfl
    | true =>
        have hblank := hsolid last (by rw [List.getLast?_eq_head?_reverse, hreverse]; rfl)
        rw [isBlank_of_endsLine hends] at hblank
        cases hblank
  rw [hreverse, BlockScalar.closed, List.head?_cons, Option.any_some, hends] at hbody
  have htext : body.text = last :: before := by
    have htext := hbody.text_eq
    simpa [hends, show endsLine '\n' = true from rfl] using htext
  have hbreaks : body.emptyLines ++ body.lineBreak.toList = ['\n'] := by
    have hbreaks := hbody.breaks_eq
    simpa [hends, show endsLine '\n' = true from rfl] using hbreaks
  cases chomping with
  | strip =>
      left
      rw [BlockScalar.Body.value, List.nil_append, htext, hkept]
  | keep =>
      right
      rw [BlockScalar.Body.value, hbreaks, htext, List.reverse_append, hkept]
      rfl
  | clip =>
      rw [BlockScalar.Body.value, htext, List.reverse_append, hkept]
      rcases List.append_eq_singleton_iff.mp hbreaks with ⟨-, hline⟩ | ⟨-, hline⟩
      · right
        rw [hline]
        rfl
      · left
        rw [hline, List.reverse_nil, List.append_nil]

/-- A header without lines gives an empty text. -/
theorem blockScalar?_literalHeader (text : List Char) (indent : Int) (mark : Mark) :
    blockScalar? true indent ⟨literalHeader text, mark⟩ =
      some ([], ⟨[], mark.after (literalHeader text)⟩) := by
  have hread := blockScalar?_header text [] indent mark
  have hvalue : ∀ chomping, BlockScalar.Body.value ⟨[], none, [], false⟩ chomping = [] := by
    intro chomping
    cases chomping <;> rfl
  rw [List.append_nil] at hread
  rw [hread]
  cases BlockScalar.depthOf text with
  | some depth =>
      dsimp only
      rw [BlockScalar.bodyFrom, Option.map_some, hvalue]
  | none =>
      dsimp only
      rw [BlockScalar.leadingLines, Option.bind_some, BlockScalar.bodyFrom, Option.map_some, hvalue]

/-- What is left of the lines of a text gives another text, if more was lost than the end of its
last line. -/
theorem exists_blockScalar?_kept {text kept blanks : List Char} (htext : text = kept ++ blanks)
    (hne : text ≠ []) (hprint : ∀ c ∈ text, isPrintable c = true) (hsolid : EndsSolid kept)
    (hlost : kept ≠ [] → text ≠ kept ∧ text ≠ kept ++ ['\n']) (column : Nat) (mark : Mark) :
    ∃ word here, word ≠ text ∧
      blockScalar? true column ⟨literalHeader text ++
        (if kept = [] then [] else literalBody (column + 2) true kept), mark⟩ =
        some (word, ⟨[], here⟩) := by
  by_cases hempty : kept = []
  · rw [if_pos hempty, List.append_nil]
    exact ⟨[], _, hne.symm, blockScalar?_literalHeader text column mark⟩
  · have hhead : kept.head? = text.head? := by
      obtain ⟨c, rest, rfl⟩ := List.exists_cons_of_ne_nil hempty
      rw [htext]
      rfl
    have hprintKept : ∀ c ∈ kept, isPrintable c = true := by
      intro c hc
      refine hprint c ?_
      rw [htext]
      exact List.mem_append_left _ hc
    have hend : ∀ c, ([] : List Char).head? = some c → isGap c = false := by simp
    obtain ⟨final, hfinal, hread⟩ := blockScalar?_lines (n := 0) hempty hhead hprintKept column mark
      (Nat.succ_pos _) hend
    simp only [spaces, List.replicate_zero, List.append_nil] at hread
    rw [if_neg hempty]
    refine ⟨_, _, fun hsame => ?_, hread⟩
    obtain ⟨hkept, hline⟩ := hlost hempty
    -- two texts at most can come of the lines, and neither is the one that was written
    rcases value_of_holds_closed hempty hsolid hfinal (BlockScalar.chompingOf text) with
      hvalue | hvalue
    · exact hkept (hsame.symm.trans hvalue)
    · exact hline (hsame.symm.trans hvalue)

/-- A literal block gives its text without the empty lines at its end. -/
theorem countP_of_run?_literal (hstyle : styleOf content = .literal)
    (hkept : keepsEnd content = false) (hcolumn : column < mark.column)
    (h : run? steps (outside tokens column outer none keyAllowed mark
      (trimmedLine column content)) = some all) :
    all.countP (Token.isScalar content) = tokens.countP (Token.isScalar content) := by
  obtain ⟨hprint, hne, -⟩ := of_styleOf_eq_literal hstyle
  obtain ⟨blanks, htext, -⟩ := Text.exists_trimEnd_append content.toList
  have hlost : trimEnd content.toList ≠ [] → content.toList ≠ trimEnd content.toList ∧
      content.toList ≠ trimEnd content.toList ++ ['\n'] := by
    intro hempty
    simpa [keepsEnd, hstyle, hempty] using hkept
  obtain ⟨word, here, hword, hread⟩ := exists_blockScalar?_kept htext hne hprint
    (Text.endsSolid_trimEnd content.toList) hlost column (mark.after (spaces 1))
  rw [trimmedLine_literal hstyle] at h
  rw [literalHeader, List.cons_append, List.cons_append] at hread h
  refine countP_of_run?_scalar (by decide) hcolumn ((token?_bar none _).trans
    (block?_outside hread)) ?_ (Or.inl rfl) h
  intro hsame
  exact hword (by rw [← hsame, String.toList_ofList])

/-- Where a text does not keep its end, it is not among the tokens of what is left of its lines. -/
theorem countP_of_run?_trimmedLine (hkept : keepsEnd content = false)
    (hcolumn : column < mark.column)
    (h : run? steps (outside tokens column outer none keyAllowed mark
      (trimmedLine column content)) = some all) :
    all.countP (Token.isScalar content) = tokens.countP (Token.isScalar content) := by
  cases hstyle : styleOf content with
  | plain => exact countP_of_run?_plain hstyle hkept hcolumn h
  | literal => exact countP_of_run?_literal hstyle hkept hcolumn h
  | singleQuoted => simp [keepsEnd, hstyle] at hkept
  | doubleQuoted => simp [keepsEnd, hstyle] at hkept
  | folded => exact absurd hstyle (styleOf_ne_folded content)

end Trimmed

end StorageSurvey.Yaml.Layout
