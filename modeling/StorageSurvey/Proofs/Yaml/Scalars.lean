import StorageSurvey.Proofs.Yaml.DoubleQuotes
import StorageSurvey.Proofs.Yaml.LiteralBlocks
import StorageSurvey.Proofs.Yaml.PlainScalars
import StorageSurvey.Proofs.Yaml.Steps

/-!
# Steps over scalars

A text is one token, in whichever style it is written.  After a text that is a value a new line has
begun.
-/

namespace StorageSurvey.Yaml

/-! ## Styles -/

theorem plain_empty : plain "" = .null := by
  simp [plain]

/-- A text is written plainly only if it then stands for itself. -/
theorem of_styleOf_eq_plain {text : String} (h : styleOf text = .plain) :
    plain text = .text ∧ allowsPlain text.toList = true ∧ text.toList ≠ [] := by
  simp only [styleOf] at h
  split at h
  · split at h <;> cases h
  · split at h
    · rename_i hplain
      rw [Bool.and_eq_true, Bool.not_eq_true', looksOtherwise, Bool.or_eq_false_iff,
        bne_eq_false_iff_eq] at hplain
      refine ⟨hplain.1.1, hplain.2, fun hempty => ?_⟩
      have htext : text = "" := String.toList_eq_nil_iff.mp hempty
      rw [htext, plain_empty] at hplain
      cases hplain.1.1
    · split at h <;> cases h

theorem of_styleOf_eq_singleQuoted {text : String} (h : styleOf text = .singleQuoted) :
    allowsSingleQuotes text.toList = true ∧ '\n' ∉ text.toList := by
  simp only [styleOf] at h
  split at h
  · split at h <;> cases h
  · rename_i hfeed
    split at h
    · cases h
    · split at h
      · rename_i hallows
        exact ⟨hallows, by simpa using hfeed⟩
      · cases h

theorem of_styleOf_eq_literal {text : String} (h : styleOf text = .literal) :
    (∀ c ∈ text.toList, isPrintable c = true) ∧ text.toList ≠ [] ∧ '\n' ∈ text.toList := by
  simp only [styleOf] at h
  split at h
  · rename_i hfeed
    split at h
    · rename_i hallows
      rw [allowsLiteral, Bool.and_eq_true, Bool.and_eq_true, List.all_eq_true] at hallows
      exact ⟨hallows.1.1, fun hempty => by simp [hempty] at hfeed, by simpa using hfeed⟩
    · cases h
  · split at h
    · cases h
    · split at h <;> cases h

theorem styleOf_ne_folded (text : String) : styleOf text ≠ .folded := by
  simp only [styleOf]
  split
  · split <;> simp
  · split
    · simp
    · split <;> simp

/-! ## The token -/

namespace Layout

/-- What is pending once a token is read that may be a key. -/
def keyAt (keyAllowed : Bool) (position : Nat) (indent : Int) (mark : Mark) : Option PendingKey :=
  if keyAllowed then some ⟨position, mark, indent == mark.column⟩ else none

section Token

variable {tokens : List Token} {indent : Int} {outer : List Int} {keyAllowed : Bool} {mark : Mark}

theorem savePending?_outside (text : List Char) :
    (outside tokens indent outer none keyAllowed mark text).savePending? =
      some (outside tokens indent outer (keyAt keyAllowed tokens.length indent mark) keyAllowed
        mark text) := by
  cases keyAllowed <;> rfl

/-- A sign that only begins a plain scalar if a word follows it. -/
theorem atGap_of_hasLeadingSign {c : Char} {text : List Char} (hallows : allowsPlain (c :: text))
    (hc : c = '-' ∨ c = '?' ∨ c = ':') (rest : List Char) : atGap (text ++ rest) = false := by
  obtain ⟨hinline, -, -, hsign, hinner⟩ := allowsPlain_iff.mp hallows
  have hspace : atSpace text = false := by
    rcases hc with rfl | rfl | rfl
    · exact (isLeadingSign_of_hasLeadingSign hsign).2 (Or.inl rfl)
    · exact (isLeadingSign_of_hasLeadingSign hsign).2 (Or.inr rfl)
    · exact (hasInnerSign_cons hinner).2.1 rfl
  cases text with
  | nil => cases hspace
  | cons d text =>
      rw [List.cons_append, atGap, isGap_of_isInline (hinline d (by simp))]
      exact hspace

theorem not_isBlank_of_atGap {text : List Char} (h : atGap text = false) :
    text.head?.any isBlank = false := by
  cases text with
  | nil => rfl
  | cons c text =>
      rw [atGap, isGap, Bool.or_eq_false_iff] at h
      exact h.1

/-- A character that is no other sign begins a plain scalar. -/
theorem token?_word {c : Char} {rest : List Char} (hgap : isGap c = false)
    (hleading : isLeadingSign c = false)
    (hmark : mark.column = 0 → atDocumentMark (c :: rest) = false)
    (hword : c = '-' ∨ c = '?' ∨ c = ':' → atGap rest = false) (pending : Option PendingKey) :
    (outside tokens indent outer pending keyAllowed mark (c :: rest)).token? c rest =
      (outside tokens indent outer pending keyAllowed mark (c :: rest)).plain? := by
  simp only [isLeadingSign, Bool.or_eq_false_iff, beq_eq_false_iff_ne] at hleading
  -- neither a mark between documents nor an indicator stands here
  have hdocument : ¬ ((outside tokens indent outer pending keyAllowed mark
      (c :: rest)).cursor.column = 0 ∧ atDocumentMark (c :: rest) = true) := by
    rintro ⟨hcolumn, h⟩
    rw [hmark hcolumn] at h
    cases h
  rw [token?.eq_def]
  simp only [hdocument, if_false]
  -- three signs begin a word if no gap follows them
  by_cases hc : c = '-' ∨ c = '?' ∨ c = ':'
  · have hbegins : beginsPlain false c rest = true := by
      rw [beginsPlain, not_isBlank_of_atGap (hword hc), hword hc]
      rcases hc with rfl | rfl | rfl <;> decide
    have hrest := hword hc
    rcases hc with rfl | rfl | rfl <;>
      simp [hrest, hbegins, outside, inFlow]
  · have hindicator : isIndicator c = false := by
      simp only [not_or] at hc
      simp [isIndicator, isFlowSign, hleading, hc]
    have hbegins : beginsPlain false c rest = true := by
      simp [beginsPlain, hgap, hindicator]
    simp only [not_or] at hc
    simp [hleading, hc, hbegins, outside, inFlow]

theorem token?_plain {c : Char} {text : List Char} (hallows : allowsPlain (c :: text))
    {rest : List Char} (hdash : rest.head? ≠ some '-') (hpoint : rest.head? ≠ some '.')
    (pending : Option PendingKey) :
    (outside tokens indent outer pending keyAllowed mark (c :: text ++ rest)).token? c
        (text ++ rest) =
      (outside tokens indent outer pending keyAllowed mark (c :: text ++ rest)).plain? := by
  obtain ⟨hinline, hhead, -, hsign, -⟩ := allowsPlain_iff.mp hallows
  have hgap : isGap c = false := by
    rw [isGap_of_isInline (hinline c List.mem_cons_self)]
    simpa using hhead
  exact token?_word hgap (isLeadingSign_of_hasLeadingSign hsign).1
    (fun _ => atDocumentMark_append (List.cons_ne_nil c text) hsign hdash hpoint)
    (fun hc => atGap_of_hasLeadingSign hallows hc rest) pending

/-- A plain scalar, once it is known what is read. -/
theorem plain?_outside {text word rest : List Char} {crossesLine : Bool} {here : Mark}
    (hread : plainFrom ⟨false, (indent + 1).toNat⟩ .empty false mark text =
      some (word, crossesLine, ⟨rest, here⟩)) :
    (outside tokens indent outer none keyAllowed mark text).plain? =
      some (outside (.scalar .plain (String.ofList word) :: tokens) indent outer
        (keyAt keyAllowed tokens.length indent mark) crossesLine here rest) := by
  rw [plain?, savePending?_outside]
  exact congrArg (Option.bind · _) hread

/-- A scalar in quotes, once it is known what is read. -/
theorem quoted?_outside {style : Style}
    {read : Folding → Mark → List Char → Option (List Char × Cursor)}
    {text word rest : List Char} {here : Mark}
    (hread : read .empty (mark.ahead 1) (text.drop 1) = some (word, ⟨rest, here⟩)) :
    (outside tokens indent outer none keyAllowed mark text).nodeSign? (quotedToken? style read) =
      some (outside (.scalar style (String.ofList word) :: tokens) indent outer
        (keyAt keyAllowed tokens.length indent mark) false here rest) := by
  have hquoted : quotedToken? style read ⟨text, mark⟩ =
      some (.scalar style (String.ofList word), ⟨rest, here⟩) := by
    rw [quotedToken?]
    exact congrArg (Option.map _) hread
  rw [nodeSign?, savePending?_outside]
  exact congrArg (Option.bind · _) hquoted

theorem token?_bar (pending : Option PendingKey) (rest : List Char) :
    (outside tokens indent outer pending keyAllowed mark ('|' :: rest)).token? '|' rest =
      (outside tokens indent outer pending keyAllowed mark ('|' :: rest)).block? .literal := by
  simp [token?, atDocumentMark, outside, inFlow]

/-- A literal block, once it is known what is read. -/
theorem block?_outside {text word rest : List Char} {here : Mark}
    (hread : blockScalar? true indent ⟨text, mark⟩ = some (word, ⟨rest, here⟩)) :
    (outside tokens indent outer none keyAllowed mark text).block? .literal =
      some (outside (.scalar .literal (String.ofList word) :: tokens) indent outer none true here
        rest) := by
  rw [block?]
  exact congrArg (Option.bind · _) hread

end Token

/-! ## Texts on one line, and in quotes -/

theorem isSign_of_allowsPlain {c : Char} {text : List Char}
    (hallows : allowsPlain (c :: text)) : isSign c = true := by
  obtain ⟨hinline, hhead, -, hsign, -⟩ := allowsPlain_iff.mp hallows
  have hc := hinline c List.mem_cons_self
  have hmark : c ≠ byteOrderMark := ne_of_isPrintable (isPrintable_of_isInline hc) rfl
  have hhash : c ≠ '#' := by
    rintro rfl
    cases (isLeadingSign_of_hasLeadingSign hsign).1
  have hspace : c ≠ ' ' := by simpa using hhead
  simp [isSign, isGap_of_isInline hc, hmark, hhash, hspace]

section Inline

variable {tokens : List Token} {indent : Int} {outer : List Int} {keyAllowed : Bool} {mark : Mark}
  (hcolumn : indent ≤ mark.column)

include hcolumn

theorem next?_plain {text rest word after : List Char} {crossesLine : Bool} {here : Mark}
    (hne : text ≠ []) (hallows : allowsPlain text = true) (hdash : rest.head? ≠ some '-')
    (hpoint : rest.head? ≠ some '.')
    (hread : plainFrom ⟨false, (indent + 1).toNat⟩ .empty false mark (text ++ rest) =
      some (word, crossesLine, ⟨after, here⟩)) :
    (outside tokens indent outer none keyAllowed mark (text ++ rest)).next? =
      (outside (.scalar .plain (String.ofList word) :: tokens) indent outer
        (keyAt keyAllowed tokens.length indent mark) crossesLine here after).dropStale? := by
  cases text with
  | nil => exact absurd rfl hne
  | cons c text =>
      rw [List.cons_append, next?_outside (isSign_of_allowsPlain hallows) hcolumn rfl,
        ← List.cons_append, token?_plain hallows hdash hpoint, plain?_outside hread,
        Option.bind_some]

theorem next?_singleQuoted {depth : Nat} {text rest : List Char}
    (hallows : allowsSingleQuotes text = true) (hfeed : '\n' ∉ text)
    (hdepth : text.any endsLine = true → 0 < depth) (hrest : rest.head? ≠ some '\'') :
    (outside tokens indent outer none keyAllowed mark (singleQuoted depth text ++ rest)).next? =
      (outside (.scalar .singleQuoted (String.ofList text) :: tokens) indent outer
        (keyAt keyAllowed tokens.length indent mark) false (mark.after (singleQuoted depth text))
        rest).dropStale? := by
  have hread := singleQuotedFrom_singleQuoted hallows hfeed hdepth hrest mark
  rw [singleQuoted, List.cons_append, List.cons_append] at hread ⊢
  have htoken : ∀ (layout : Layout) (rest : List Char), layout.token? '\'' rest =
      layout.nodeSign? (quotedToken? .singleQuoted singleQuotedFrom) := by
    intro layout rest
    simp [token?, atDocumentMark]
  rw [next?_outside (by decide) hcolumn rfl, htoken, quoted?_outside hread, Option.bind_some]

theorem next?_doubleQuoted (text rest : List Char) :
    (outside tokens indent outer none keyAllowed mark (doubleQuoted text ++ rest)).next? =
      (outside (.scalar .doubleQuoted (String.ofList text) :: tokens) indent outer
        (keyAt keyAllowed tokens.length indent mark) false (mark.after (doubleQuoted text))
        rest).dropStale? := by
  have hread := doubleQuotedFrom_doubleQuoted text rest mark
  rw [doubleQuoted, List.cons_append, List.cons_append] at hread ⊢
  have htoken : ∀ (layout : Layout) (rest : List Char), layout.token? '"' rest =
      layout.nodeSign? (quotedToken? .doubleQuoted doubleQuotedFrom) := by
    intro layout rest
    simp [token?, atDocumentMark]
  rw [next?_outside (by decide) hcolumn rfl, htoken, quoted?_outside hread, Option.bind_some]

end Inline

/-! ## Values -/

/-- Whether a run leads to the start of a line, with these tokens and blocks. -/
def ReachesLine (layout : Layout) (tokens : List Token) (indent : Int) (outer : List Int)
    (text : List Char) : Prop :=
  ∃ mark, mark.column = 0 ∧ layout.Reaches (ready tokens indent outer mark text)

theorem ReachesLine.of_reaches {layout target : Layout} {tokens : List Token} {indent : Int}
    {outer : List Int} {text : List Char} (h : layout.Reaches target)
    (hline : target.ReachesLine tokens indent outer text) :
    layout.ReachesLine tokens indent outer text := by
  obtain ⟨mark, hmark, hreaches⟩ := hline
  exact ⟨mark, hmark, h.trans hreaches⟩

theorem mayLapse_keyAt {keyAllowed : Bool} {position : Nat} {indent : Int} {mark here : Mark}
    (hcolumn : indent < mark.column) (hline : mark.line ≤ here.line) :
    MayLapse (keyAt keyAllowed position indent mark) here := by
  intro key hkey
  rw [keyAt] at hkey
  split at hkey
  · cases hkey
    refine ⟨?_, hline⟩
    rw [beq_eq_false_iff_ne]
    omega
  · cases hkey

/-- A token that ends before the end of its line. -/
theorem reachesLine_of_next? {layout : Layout} {token : Token} {tokens : List Token}
    {indent : Int} {outer : List Int} {pending : Option PendingKey} {keyAllowed : Bool}
    {mark : Mark} {text : List Char} (htoken : token ≠ .streamEnd)
    (hnext : layout.next? = (outside (token :: tokens) indent outer pending keyAllowed mark
      ('\n' :: text)).dropStale?)
    (hpending : MayLapse pending mark) {bound : Int} (hfollows : Follows bound text)
    (hlength : text.length < layout.cursor.text.length) :
    layout.ReachesLine (token :: tokens) indent outer text := by
  obtain ⟨kept, hkept, hdrop⟩ := dropStale?_of_mayLapse hpending
  rw [hdrop] at hnext
  exact ⟨mark.past '\n', rfl,
    Reaches.of_next? hnext (by simpa [outside] using htoken) (agrees_lineEnd hkept hfollows)
      hlength⟩

section Values

variable {tokens : List Token} {indent : Nat} {outer : List Int} {keyAllowed : Bool} {mark : Mark}
  (hcolumn : indent < mark.column) {rest : List Char} (hfollows : Follows indent rest)

include hcolumn hfollows

theorem reachesLine_plain {text : List Char} (hne : text ≠ []) (hallows : allowsPlain text = true) :
    (outside tokens indent outer none keyAllowed mark (text ++ '\n' :: rest)).ReachesLine
      (.scalar .plain (String.ofList text) :: tokens) indent outer rest := by
  obtain ⟨n, after, rfl, hafter, hn⟩ := hfollows
  have hdash : ('\n' :: (spaces n ++ after)).head? ≠ some '-' := by simp
  have hpoint : ('\n' :: (spaces n ++ after)).head? ≠ some '.' := by simp
  have hindent : ((indent : Int) + 1).toNat = indent + 1 := by omega
  have hread : plainFrom ⟨false, ((indent : Int) + 1).toNat⟩ .empty false mark
      (text ++ '\n' :: (spaces n ++ after)) =
      some (text, true, ⟨after, (mark.after text).after ('\n' :: spaces n)⟩) := by
    rw [hindent, plainFrom_text rfl hne hallows (by dsimp only; omega) hdash hpoint,
      ← List.cons_append, plainFrom_lineEnd rfl (by simpa using hne), List.reverse_reverse]
    intro c hc
    exact ⟨isGap_of_isSign (hafter c hc), by dsimp only; omega⟩
  -- the scalar ends on the next line, where it is too late for a colon
  have hline : mark.line < ((mark.after text).after ('\n' :: spaces n)).line :=
    Nat.lt_of_le_of_lt (line_le_after mark text) (Nat.lt_of_lt_of_le (Nat.lt_succ_self _)
      (line_le_after ((mark.after text).past '\n') (spaces n)))
  have hlapse : MayLapse (keyAt keyAllowed tokens.length indent mark) mark :=
    mayLapse_keyAt (by omega) (Nat.le_refl _)
  have hnext : (outside tokens indent outer none keyAllowed mark
      (text ++ '\n' :: (spaces n ++ after))).next? =
      some (ready (.scalar .plain (String.ofList text) :: tokens) indent outer
        (((mark.after text).past '\n').after (spaces n)) after) := by
    rw [next?_plain (by omega) hne hallows hdash hpoint hread, dropStale?_of_line_lt hlapse hline]
    rfl
  refine ⟨(mark.after text).past '\n', rfl, Reaches.of_next? hnext (by simp [ready, outside]) ?_ ?_⟩
  · exact (agrees_spaces n).symm
  · simp [ready, outside]
    omega

theorem reachesLine_literal {text : List Char} (hne : text ≠ [])
    (hprint : ∀ c ∈ text, isPrintable c = true) :
    (outside tokens indent outer none keyAllowed mark
      (literal (indent + 2) text ++ rest)).ReachesLine
      (.scalar .literal (String.ofList text) :: tokens) indent outer rest := by
  obtain ⟨n, after, rfl, hafter, hn⟩ := hfollows
  have hread := blockScalar?_literal hne hprint indent mark (n := n) (by omega)
    fun c hc => isGap_of_isSign (hafter c hc)
  have hcolumnAfter : (mark.after (literal (indent + 2) text)).column = 0 := by
    rw [literal_eq, Mark.after_append]
    refine column_after_literalBody hprint fun _ => ?_
    rw [literalHeader, Mark.after_append]
    rfl
  have hnext : (outside tokens indent outer none keyAllowed mark
      (literal (indent + 2) text ++ (spaces n ++ after))).next? =
      some (ready (.scalar .literal (String.ofList text) :: tokens) indent outer
        ((mark.after (literal (indent + 2) text)).after (spaces n)) after) := by
    rw [Mark.after_append] at hread
    rw [literal, List.cons_append, List.cons_append, List.cons_append] at hread ⊢
    rw [next?_outside (by decide) (by omega) rfl, token?_bar, block?_outside hread,
      Option.bind_some]
    exact dropStale?_none
  refine ⟨_, hcolumnAfter, Reaches.of_next? hnext (by simp [ready, outside]) ?_ ?_⟩
  · exact (agrees_spaces n).symm
  · simp [ready, outside, literal]
    omega

/-- A text, in the style that is chosen for it. -/
theorem reachesLine_textLine (text : String) :
    (outside tokens indent outer none keyAllowed mark
      (textLine (indent + 2) text ++ rest)).ReachesLine
      (.scalar (styleOf text) text :: tokens) indent outer rest := by
  have hlapse : ∀ written, MayLapse (keyAt keyAllowed tokens.length indent mark)
      (mark.after written) :=
    fun written => mayLapse_keyAt (by omega) (line_le_after mark written)
  have htext : ∀ style, Token.scalar style text = .scalar style (String.ofList text.toList) :=
    fun style => by rw [String.ofList_toList]
  rw [textLine, htext]
  cases hstyle : styleOf text with
  | plain =>
      obtain ⟨-, hallows, hne⟩ := of_styleOf_eq_plain hstyle
      rw [styledLine, List.append_assoc, List.singleton_append]
      exact reachesLine_plain hcolumn hfollows hne hallows
  | singleQuoted =>
      obtain ⟨hallows, hfeed⟩ := of_styleOf_eq_singleQuoted hstyle
      rw [styledLine, List.append_assoc, List.singleton_append]
      have hnext := @next?_singleQuoted tokens indent outer keyAllowed mark (by omega) (indent + 2)
        text.toList ('\n' :: rest) hallows hfeed (by omega) (by simp)
      refine reachesLine_of_next? Token.noConfusion hnext (hlapse _) hfollows ?_
      simp [outside]
      omega
  | doubleQuoted =>
      rw [styledLine, List.append_assoc, List.singleton_append]
      have hnext := @next?_doubleQuoted tokens indent outer keyAllowed mark (by omega) text.toList
        ('\n' :: rest)
      refine reachesLine_of_next? Token.noConfusion hnext (hlapse _) hfollows ?_
      simp [outside]
      omega
  | literal =>
      obtain ⟨hprint, hne, -⟩ := of_styleOf_eq_literal hstyle
      exact reachesLine_literal hcolumn hfollows hne hprint
  | folded => exact absurd hstyle (styleOf_ne_folded text)

end Values

/-! ## Brackets without contents -/

/-- A layout in one pair of brackets, where nothing is read yet. -/
def inBrackets (tokens : List Token) (indent : Int) (outer : List Int)
    (pending : Option PendingKey) (mark : Mark) (text : List Char) : Layout :=
  { outside tokens indent outer none true mark text with outerPending := [pending] }

section Brackets

variable {tokens : List Token} {indent : Int} {outer : List Int} {mark : Mark}

theorem openBracket?_outside (keyAllowed : Bool) (text : List Char) (token : Token) :
    (outside tokens indent outer none keyAllowed mark text).openBracket? token =
      some (inBrackets (token :: tokens) indent outer
        (keyAt keyAllowed tokens.length indent mark) (mark.ahead 1) (text.drop 1)) := by
  rw [openBracket?, savePending?_outside]
  rfl

theorem closeBracket?_inBrackets (pending : Option PendingKey) (text : List Char)
    (token : Token) :
    (inBrackets tokens indent outer pending mark text).closeBracket? token =
      some (outside (token :: tokens) indent outer pending false (mark.ahead 1)
        (text.drop 1)) := rfl

theorem dropStale?_inBrackets {pending : Option PendingKey}
    (h : refresh mark pending = some pending) (text : List Char) :
    (inBrackets tokens indent outer pending mark text).dropStale? =
      some (inBrackets tokens indent outer pending mark text) := by
  have hnone : refresh mark none = some none := rfl
  simp [dropStale?, inBrackets, outside, h, hnone]

/-- A closing bracket. -/
theorem next?_inBrackets {pending : Option PendingKey} (h : refresh mark pending = some pending)
    {c : Char} (hc : c = ']' ∨ c = '\x7d') (text : List Char) :
    (inBrackets tokens indent outer pending mark (c :: text)).next? =
      ((inBrackets tokens indent outer pending mark (c :: text)).token? c text).bind
        dropStale? := by
  have hsign : isSign c = true := by rcases hc with rfl | rfl <;> decide
  have hskip : (inBrackets tokens indent outer pending mark (c :: text)).skipGap =
      inBrackets tokens indent outer pending mark (c :: text) := by
    simp [skipGap, inBrackets, outside, skipGapFrom_atSign (atSign_cons hsign text)]
  rw [next?_eq, beforeToken?, hskip, dropStale?_inBrackets h]
  rfl

/-- The signs of a list or record without contents, with their tokens. -/
def emptySigns : List (Char × Char × Token × Token) :=
  [('[', ']', .flowListStart, .flowListEnd), ('\x7b', '\x7d', .flowTableStart, .flowTableEnd)]

theorem token?_emptySigns {first last : Char} {start ending : Token}
    (h : (first, last, start, ending) ∈ emptySigns) (layout : Layout) (text : List Char) :
    layout.token? first text = layout.openBracket? start ∧
      layout.token? last text = layout.closeBracket? ending := by
  simp only [emptySigns, List.mem_cons, Prod.mk.injEq, List.not_mem_nil, or_false] at h
  rcases h with ⟨rfl, rfl, rfl, rfl⟩ | ⟨rfl, rfl, rfl, rfl⟩ <;> simp [token?, atDocumentMark]

/-- A list or record without contents. -/
theorem reachesLine_brackets {first last : Char} {start ending : Token}
    (h : (first, last, start, ending) ∈ emptySigns) {keyAllowed : Bool}
    (hcolumn : indent < mark.column) {bound : Int} {rest : List Char}
    (hfollows : Follows bound rest) :
    (outside tokens indent outer none keyAllowed mark (first :: last :: '\n' :: rest)).ReachesLine
      (ending :: start :: tokens) indent outer rest := by
  let pending := keyAt keyAllowed tokens.length indent mark
  -- the pending key is one character old, so it cannot be stale
  have hkept : refresh (mark.ahead 1) pending = some pending := by
    simp only [pending, keyAt]
    split
    · have : isStale (mark.ahead 1) ⟨tokens.length, mark, indent == mark.column⟩ = false := by
        simp [isStale, Mark.ahead, maxKeyLength]
      simp [refresh, this]
    · rfl
  have hsigns : isSign first = true ∧ (last = ']' ∨ last = '\x7d') ∧ start ≠ .streamEnd ∧
      ending ≠ .streamEnd := by
    simp only [emptySigns, List.mem_cons, Prod.mk.injEq, List.not_mem_nil, or_false] at h
    rcases h with ⟨rfl, rfl, rfl, rfl⟩ | ⟨rfl, rfl, rfl, rfl⟩ <;> decide
  obtain ⟨hsign, hlast, hstart, hending⟩ := hsigns
  have hopen : (outside tokens indent outer none keyAllowed mark
      (first :: last :: '\n' :: rest)).next? =
      some (inBrackets (start :: tokens) indent outer pending (mark.ahead 1)
        (last :: '\n' :: rest)) := by
    rw [next?_outside hsign (by omega) rfl, (token?_emptySigns h _ _).1, openBracket?_outside,
      Option.bind_some]
    exact dropStale?_inBrackets hkept _
  have hclose : (inBrackets (start :: tokens) indent outer pending (mark.ahead 1)
      (last :: '\n' :: rest)).next? =
      (outside (ending :: start :: tokens) indent outer pending false (mark.ahead 2)
        ('\n' :: rest)).dropStale? := by
    rw [next?_inBrackets hkept hlast, (token?_emptySigns h _ _).2, closeBracket?_inBrackets,
      Option.bind_some]
    rfl
  refine ReachesLine.of_reaches (Reaches.of_next? hopen ?_ rfl (Nat.lt_succ_self _)) ?_
  · simpa [inBrackets, outside] using hstart
  · exact reachesLine_of_next? hending hclose (mayLapse_keyAt hcolumn (Nat.le_refl _)) hfollows
      (Nat.lt_succ_of_lt (Nat.lt_succ_self _))

end Brackets

end Layout

end StorageSurvey.Yaml
