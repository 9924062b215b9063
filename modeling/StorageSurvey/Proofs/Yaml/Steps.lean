import StorageSurvey.Proofs.Yaml.Characters
import StorageSurvey.Proofs.Yaml.Runs

/-!
# Steps outside of brackets

Between the values of a document the layout is outside of brackets, no key is pending, and the
cursor is at the start of a line or before the sign of a value.  Here is what one step does there,
and what makes no difference: the gap before a sign, a pending key that is left behind with its
line, and blocks that the next line ends.
-/

namespace StorageSurvey.Yaml.Layout

/-- A layout outside of brackets, after some tokens, in reverse. -/
def outside (tokens : List Token) (indent : Int) (outer : List Int)
    (pending : Option PendingKey) (keyAllowed : Bool) (mark : Mark) (text : List Char) :
    Layout where
  cursor := ⟨text, mark⟩
  indent := indent
  outerIndents := outer
  pending := pending
  outerPending := []
  keyAllowed := keyAllowed
  tokens := tokens
  count := tokens.length

/-- The layout where no key is pending and one may begin. -/
def ready (tokens : List Token) (indent : Int) (outer : List Int) (mark : Mark)
    (text : List Char) : Layout :=
  outside tokens indent outer none true mark text

/-! ## Gaps -/

/-- Whether a character is the first of a token. -/
def isSign (c : Char) : Bool :=
  !isGap c && c != '#' && c != byteOrderMark

/-- Whether a text, after its indentation, begins with a sign or has ended. -/
def AtSign (text : List Char) : Prop :=
  ∀ c, text.head? = some c → isSign c = true

theorem atSign_nil : AtSign [] := by
  intro c hc
  cases hc

theorem atSign_cons {c : Char} (h : isSign c = true) (rest : List Char) : AtSign (c :: rest) := by
  intro d hd
  cases hd
  exact h

theorem isGap_of_isSign {c : Char} (h : isSign c = true) : isGap c = false := by
  simp only [isSign, Bool.and_eq_true, Bool.not_eq_true'] at h
  exact h.1.1

theorem skipGapFrom_spaces (inFlow keyAllowed : Bool) (n : Nat) (mark : Mark)
    (rest : List Char) :
    skipGapFrom inFlow keyAllowed false mark (spaces n ++ rest) =
      skipGapFrom inFlow keyAllowed false (mark.after (spaces n)) rest := by
  induction n generalizing mark with
  | zero => rfl
  | succ n ih =>
      rw [spaces_succ, List.cons_append, skipGapFrom, if_neg (by decide), if_neg (by decide),
        if_pos (by simp), ih, Mark.after_cons, Mark.past_of_not_isBreak mark rfl]

theorem skipGapFrom_atSign {rest : List Char} (hrest : AtSign rest) (inFlow keyAllowed : Bool)
    (mark : Mark) :
    skipGapFrom inFlow keyAllowed false mark rest = (keyAllowed, ⟨rest, mark⟩) := by
  cases rest with
  | nil => rfl
  | cons c rest =>
      have hsign := hrest c rfl
      have hgap := isGap_of_isSign hsign
      simp only [isSign, Bool.and_eq_true, Bool.not_eq_true', bne_iff_ne] at hsign
      have hspace : c ≠ ' ' := by
        rintro rfl
        cases hgap
      have htab : c ≠ '\t' := by
        rintro rfl
        cases hgap
      rw [skipGapFrom, if_neg (by simp [isBreak_of_isGap hgap]), if_neg (by decide)]
      simp [hspace, htab, hsign.2, hsign.1.2]

section Gaps

variable {tokens : List Token} {indent : Int} {outer : List Int} {pending : Option PendingKey}
  {keyAllowed : Bool} {mark : Mark} {rest : List Char}

/-- Spaces before a sign make no difference. -/
theorem agrees_spaces (n : Nat) :
    (outside tokens indent outer pending keyAllowed mark (spaces n ++ rest)).Agrees
      (outside tokens indent outer pending keyAllowed (mark.after (spaces n)) rest) := by
  simp [Agrees, beforeToken?, skipGap, outside, skipGapFrom_spaces, inFlow]

theorem skipGap_spaces (hrest : AtSign rest) (n : Nat) :
    (outside tokens indent outer pending keyAllowed mark (spaces n ++ rest)).skipGap =
      outside tokens indent outer pending keyAllowed (mark.after (spaces n)) rest := by
  simp [skipGap, outside, skipGapFrom_spaces, skipGapFrom_atSign hrest]

theorem skipGap_outside (hrest : AtSign rest) :
    (outside tokens indent outer pending keyAllowed mark rest).skipGap =
      outside tokens indent outer pending keyAllowed mark rest := by
  simp [skipGap, outside, skipGapFrom_atSign hrest]

/-- A line end, with the indentation of the next line. -/
theorem skipGap_lineEnd (hrest : AtSign rest) (n : Nat) :
    (outside tokens indent outer pending keyAllowed mark ('\n' :: (spaces n ++ rest))).skipGap =
      outside tokens indent outer pending true (mark.after ('\n' :: spaces n)) rest := by
  have hskip : skipGapFrom false keyAllowed false mark ('\n' :: (spaces n ++ rest)) =
      (true, ⟨rest, mark.after ('\n' :: spaces n)⟩) := by
    rw [skipGapFrom, if_pos (by decide), skipGapFrom_spaces, skipGapFrom_atSign hrest,
      Mark.after_cons, Bool.not_false, Bool.or_true]
  simp [skipGap, outside, inFlow, hskip]

end Gaps

/-! ## Pending keys -/

/-- Whether a pending key may be left behind with its line. -/
def MayLapse (pending : Option PendingKey) (mark : Mark) : Prop :=
  ∀ key, pending = some key → key.required = false ∧ key.mark.line ≤ mark.line

theorem mayLapse_none (mark : Mark) : MayLapse none mark := nofun

section Stale

variable {tokens : List Token} {indent : Int} {outer : List Int} {pending : Option PendingKey}
  {keyAllowed : Bool} {mark : Mark} {text : List Char}

theorem dropStale?_outside {kept : Option PendingKey} (h : refresh mark pending = some kept) :
    (outside tokens indent outer pending keyAllowed mark text).dropStale? =
      some (outside tokens indent outer kept keyAllowed mark text) := by
  simp [dropStale?, outside, h]

theorem dropStale?_of_not_isStale {key : PendingKey} (h : isStale mark key = false) :
    (outside tokens indent outer (some key) keyAllowed mark text).dropStale? =
      some (outside tokens indent outer (some key) keyAllowed mark text) :=
  dropStale?_outside (by simp [refresh, h])

theorem dropStale?_none :
    (outside tokens indent outer none keyAllowed mark text).dropStale? =
      some (outside tokens indent outer none keyAllowed mark text) :=
  dropStale?_outside rfl

/-- A key that may lapse is kept or given up, as long as its line goes on. -/
theorem dropStale?_of_mayLapse (h : MayLapse pending mark) :
    ∃ kept, MayLapse kept mark ∧
      (outside tokens indent outer pending keyAllowed mark text).dropStale? =
        some (outside tokens indent outer kept keyAllowed mark text) := by
  cases pending with
  | none => exact ⟨none, h, dropStale?_none⟩
  | some key =>
      obtain ⟨hrequired, -⟩ := h key rfl
      cases hstale : isStale mark key with
      | true =>
          have hrefresh : refresh mark (some key) = some none := by
            simp [refresh, hstale, hrequired]
          exact ⟨none, mayLapse_none mark, dropStale?_outside hrefresh⟩
      | false => exact ⟨some key, h, dropStale?_of_not_isStale hstale⟩

/-- A key that may lapse does so on the next line. -/
theorem dropStale?_of_line_lt (h : MayLapse pending mark) {here : Mark}
    (hline : mark.line < here.line) :
    (outside tokens indent outer pending keyAllowed here text).dropStale? =
      some (outside tokens indent outer none keyAllowed here text) := by
  cases pending with
  | none => exact dropStale?_none
  | some key =>
      obtain ⟨hrequired, hkey⟩ := h key rfl
      have hstale : isStale here key = true := by
        simp only [isStale, Bool.or_eq_true, decide_eq_true_eq]
        omega
      exact dropStale?_outside (by simp [refresh, hstale, hrequired])

end Stale

theorem line_le_after (mark : Mark) (text : List Char) :
    mark.line ≤ (mark.after text).line := by
  induction text generalizing mark with
  | nil => exact Nat.le_refl _
  | cons c text ih =>
      refine Nat.le_trans ?_ (ih (mark.past c))
      rw [Mark.past]
      split <;> simp

/-! ## Blocks -/

section Blocks

variable {tokens : List Token} {indent : Int} {outer : List Int} {pending : Option PendingKey}
  {keyAllowed : Bool} {mark : Mark} {text : List Char}

theorem closeBlocks_of_le {column : Int} (h : indent ≤ column) :
    (outside tokens indent outer pending keyAllowed mark text).closeBlocks column =
      outside tokens indent outer pending keyAllowed mark text := by
  have hpast : blocksPast column indent outer = (0, indent, outer) := by
    cases outer with
    | nil => rfl
    | cons around outer => rw [blocksPast, if_neg (by omega)]
  simp [closeBlocks, outside, inFlow, hpast]

/-- The innermost block is closed first. -/
theorem closeBlocks_of_lt {column around : Int} (h : column < indent) :
    (outside tokens indent (around :: outer) pending keyAllowed mark text).closeBlocks column =
      (outside (.blockEnd :: tokens) around outer pending keyAllowed mark text).closeBlocks
        column := by
  have hpast : blocksPast column indent (around :: outer) =
      ((blocksPast column around outer).1 + 1, (blocksPast column around outer).2) := by
    rw [blocksPast, if_pos h]
  simp [closeBlocks, outside, inFlow, hpast, List.replicate_succ']
  omega

end Blocks

/-- Whether a sign at a column is in a block there, which it may open: it then stands after the
tokens `tokens'`, and `outer'` are the columns of the blocks around. -/
inductive Enters (opening : Token) (column : Nat) (tokens : List Token) (indent : Int)
    (outer : List Int) : List Token → List Int → Prop
  | opens : indent < column → Enters opening column tokens indent outer (opening :: tokens)
      (indent :: outer)
  | stays : indent = column → Enters opening column tokens indent outer tokens outer

namespace Enters

variable {opening : Token} {column : Nat} {tokens tokens' : List Token} {indent : Int}
  {outer outer' : List Int}

theorem le (h : Enters opening column tokens indent outer tokens' outer') : indent ≤ column := by
  cases h with
  | opens h => omega
  | stays h => omega

/-- The block is opened before the last tokens. -/
theorem openBlock_eq (h : Enters opening column tokens indent outer tokens' outer')
    (last : List Token) {pending : Option PendingKey} {keyAllowed : Bool} {mark : Mark}
    {text : List Char} :
    (outside (last ++ tokens) indent outer pending keyAllowed mark text).openBlock column
        tokens.length opening =
      outside (last ++ tokens') column outer' pending keyAllowed mark text := by
  cases h with
  | opens h =>
      simp [openBlock, outside, inFlow, insertAt, h]
      omega
  | stays h =>
      subst h
      simp [openBlock, outside, inFlow]

end Enters

/-! ## The start of a line -/

/-- Whether the lines of a text are not indented more deeply than a column, as far as its first
sign. -/
def Follows (indent : Int) (text : List Char) : Prop :=
  ∃ n rest, text = spaces n ++ rest ∧ AtSign rest ∧ (n : Int) ≤ indent

section Lines

variable {tokens : List Token} {indent : Int} {outer : List Int} {pending : Option PendingKey}
  {keyAllowed : Bool} {mark : Mark} {text : List Char}

/-- After a line end, a pending key is given up. -/
theorem agrees_lineEnd (hpending : MayLapse pending mark) {bound : Int}
    (hfollows : Follows bound text) :
    (outside tokens indent outer pending keyAllowed mark ('\n' :: text)).Agrees
      (ready tokens indent outer (mark.past '\n') text) := by
  obtain ⟨n, rest, rfl, hrest, -⟩ := hfollows
  have hline : mark.line < (mark.after ('\n' :: spaces n)).line :=
    Nat.lt_of_lt_of_le (Nat.lt_succ_self _) (line_le_after (mark.past '\n') (spaces n))
  rw [Agrees, ready, beforeToken?, beforeToken?, skipGap_lineEnd hrest, skipGap_spaces hrest,
    dropStale?_of_line_lt hpending hline, dropStale?_none, Mark.after_cons]

/-- Where the next line is indented less than a block, the block has ended. -/
theorem agrees_close {around : Int} (hmark : mark.column = 0) (hfollows : Follows around text)
    (haround : around < indent) :
    (ready tokens indent (around :: outer) mark text).Agrees
      (ready (.blockEnd :: tokens) around outer mark text) := by
  obtain ⟨n, rest, rfl, hrest, hn⟩ := hfollows
  have hcolumn : (mark.after (spaces n)).column = n := by
    rw [Mark.after_spaces, Mark.column_ahead hmark]
  rw [Agrees, ready, ready, beforeToken?, beforeToken?, skipGap_spaces hrest,
    skipGap_spaces hrest, dropStale?_none, dropStale?_none, Option.map_some, Option.map_some]
  refine congrArg some (closeBlocks_of_lt ?_)
  rw [show ∀ tokens indent outer, (outside tokens indent outer none true (mark.after (spaces n))
    rest).cursor.column = n from fun _ _ _ => hcolumn]
  omega

end Lines

/-! ## Tokens -/

/-- The layout before a sign takes the token there. -/
theorem next?_outside {tokens : List Token} {indent : Int} {outer : List Int}
    {pending : Option PendingKey} {keyAllowed : Bool} {mark : Mark} {c : Char}
    {rest : List Char} (hsign : isSign c = true) (hcolumn : indent ≤ mark.column)
    (hpending : refresh mark pending = some pending) :
    (outside tokens indent outer pending keyAllowed mark (c :: rest)).next? =
      ((outside tokens indent outer pending keyAllowed mark (c :: rest)).token? c rest).bind
        dropStale? := by
  rw [next?_eq, beforeToken?, skipGap_outside (atSign_cons hsign rest),
    dropStale?_outside hpending, Option.map_some]
  rw [show (outside tokens indent outer pending keyAllowed mark (c :: rest)).cursor.column =
    mark.column from rfl, closeBlocks_of_le hcolumn, Option.bind_some]
  rfl

/-! ### Signs with a gap after them

The choice among all tokens is made once for each of these signs; what is read there is then the
token's own. -/

section Signs

variable {rest : List Char} (hgap : atGap rest = true) (layout : Layout)

include hgap

theorem token?_item : layout.token? '-' rest = layout.item? := by
  have hmark : atDocumentMark ('-' :: rest) = false := by
    unfold atDocumentMark
    split
    case h_1 heq =>
      cases heq
      cases hgap
    case h_2 heq => cases heq
    case h_3 => rfl
  simp [token?, hmark, hgap]

theorem token?_key : layout.token? '?' rest = layout.key? := by
  simp [token?, atDocumentMark, hgap]

theorem token?_value : layout.token? ':' rest = layout.value? := by
  simp [token?, atDocumentMark, hgap]

end Signs

/-- The signs of blocks, with the starts of their blocks and their own tokens. -/
def blockSigns : List (Char × Token × Token) :=
  [('-', .blockListStart, .item), ('?', .blockTableStart, .key), (':', .blockTableStart, .value)]

theorem token?_blockSign {c : Char} {opening token : Token}
    (h : (c, opening, token) ∈ blockSigns) {rest : List Char} (hgap : atGap rest = true)
    {tokens tokens' : List Token} {indent : Int} {outer outer' : List Int} {mark : Mark}
    (henters : Enters opening mark.column tokens indent outer tokens' outer') :
    (ready tokens indent outer mark (c :: rest)).token? c rest =
      some (ready (token :: tokens') mark.column outer' (mark.ahead 1) rest) := by
  have hopened : (ready tokens indent outer mark (c :: rest)).openBlock mark.column
      tokens.length opening = ready tokens' mark.column outer' mark (c :: rest) :=
    henters.openBlock_eq []
  simp only [blockSigns, List.mem_cons, Prod.mk.injEq, List.not_mem_nil, or_false] at h
  rcases h with ⟨rfl, rfl, rfl⟩ | ⟨rfl, rfl, rfl⟩ | ⟨rfl, rfl, rfl⟩
  · have hitem : (ready tokens indent outer mark ('-' :: rest)).item? =
        ((ready tokens indent outer mark ('-' :: rest)).openBlock mark.column tokens.length
          .blockListStart).dropPending?.bind fun layout =>
            some (({ layout with keyAllowed := true }.skip 1).push .item) := rfl
    rw [token?_item hgap, hitem, hopened]
    rfl
  · have hkey : (ready tokens indent outer mark ('?' :: rest)).key? =
        ((ready tokens indent outer mark ('?' :: rest)).openBlock mark.column tokens.length
          .blockTableStart).dropPending?.bind fun layout =>
            some (({ layout with keyAllowed := !layout.inFlow }.skip 1).push .key) := rfl
    rw [token?_key hgap, hkey, hopened]
    rfl
  · have hvalue : (ready tokens indent outer mark (':' :: rest)).value? =
        let layout := (ready tokens indent outer mark (':' :: rest)).openBlock mark.column
          tokens.length .blockTableStart
        some (({ layout with keyAllowed := !layout.inFlow }.skip 1).push .value) := rfl
    rw [token?_value hgap, hvalue, hopened]
    rfl

/-- The sign of a block with a gap after it. -/
theorem reaches_sign {c : Char} {opening token : Token}
    (h : (c, opening, token) ∈ blockSigns) {rest : List Char} (hgap : atGap rest = true)
    {tokens tokens' : List Token} {indent : Int} {outer outer' : List Int} {mark : Mark}
    (henters : Enters opening mark.column tokens indent outer tokens' outer') :
    (ready tokens indent outer mark (c :: rest)).Reaches
      (ready (token :: tokens') mark.column outer' (mark.ahead 1) rest) := by
  have hsign : isSign c = true ∧ token ≠ .streamEnd := by
    simp only [blockSigns, List.mem_cons, Prod.mk.injEq, List.not_mem_nil, or_false] at h
    rcases h with ⟨rfl, rfl, rfl⟩ | ⟨rfl, rfl, rfl⟩ | ⟨rfl, rfl, rfl⟩ <;> decide
  have hnext : (ready tokens indent outer mark (c :: rest)).next? =
      some (ready (token :: tokens') mark.column outer' (mark.ahead 1) rest) := by
    rw [ready, next?_outside hsign.1 henters.le rfl, ← ready, token?_blockSign h hgap henters,
      Option.bind_some]
    exact dropStale?_none
  exact Reaches.of_next? hnext (by simpa [ready, outside] using hsign.2) rfl (Nat.lt_succ_self _)

/-- Spaces before a sign are skipped. -/
theorem reaches_spaces {tokens : List Token} {indent : Int} {outer : List Int} {mark : Mark}
    (n : Nat) (text : List Char) :
    (ready tokens indent outer mark (spaces n ++ text)).Reaches
      (ready tokens indent outer (mark.ahead n) text) := by
  rw [← Mark.after_spaces]
  refine Reaches.of_agrees (agrees_spaces n) ?_
  simp [ready, outside]

/-- The sign of a block with a space after it. -/
theorem reaches_blockSign {c : Char} {opening token : Token}
    (h : (c, opening, token) ∈ blockSigns) {tokens tokens' : List Token} {indent : Int}
    {outer outer' : List Int} {mark : Mark}
    (henters : Enters opening mark.column tokens indent outer tokens' outer')
    (text : List Char) :
    (ready tokens indent outer mark (c :: ' ' :: text)).Reaches
      (ready (token :: tokens') mark.column outer' (mark.ahead 2) text) := by
  have hspace : (ready (token :: tokens') mark.column outer' (mark.ahead 1) (' ' :: text)).Reaches
      (ready (token :: tokens') mark.column outer' ((mark.ahead 1).ahead 1) text) :=
    reaches_spaces 1 text
  rw [Mark.ahead_ahead] at hspace
  exact (reaches_sign h rfl henters).trans hspace

end StorageSurvey.Yaml.Layout
