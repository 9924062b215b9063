import StorageSurvey.Proofs.Yaml.Runs
import StorageSurvey.Yaml.Tree

/-!
# Texts that go wrong

The end of the text is a token of its own, and it is the last one of a run that ends.  A run that
goes wrong leaves the tokens before the fault, and the end is never among them: every step but the
last keeps the layout *open*, which is to say without that token.  So a document whose run goes
wrong is not complete.
-/

namespace StorageSurvey.Yaml

/-! ## Tokens that are not the end -/

theorem ne_streamEnd_of_quotedToken? {style : Style}
    {read : Folding → Mark → List Char → Option (List Char × Cursor)} {cursor here : Cursor}
    {token : Token} (h : Layout.quotedToken? style read cursor = some (token, here)) :
    token ≠ .streamEnd := by
  obtain ⟨⟨text, after⟩, -, heq⟩ := Option.map_eq_some_iff.mp h
  cases heq
  exact Token.noConfusion

theorem ne_streamEnd_of_anchorToken? {make : String → Token}
    (hmake : ∀ name, make name ≠ .streamEnd) {cursor here : Cursor} {token : Token}
    (h : Layout.anchorToken? make cursor = some (token, here)) : token ≠ .streamEnd := by
  obtain ⟨⟨name, after⟩, -, heq⟩ := Option.map_eq_some_iff.mp h
  cases heq
  exact hmake name

theorem ne_streamEnd_of_tag? {inFlow : Bool} {cursor here : Cursor} {token : Token}
    (h : tag? inFlow cursor = some (token, here)) : token ≠ .streamEnd := by
  obtain ⟨⟨⟨handle, suffix⟩, after⟩, -, heq⟩ := Option.bind_eq_some_iff.mp h
  dsimp only at heq
  split at heq
  · cases heq
    exact Token.noConfusion
  · cases heq

theorem ne_streamEnd_of_versionDirective? {cursor here : Cursor} {token : Token}
    (h : versionDirective? cursor = some (token, here)) : token ≠ .streamEnd := by
  obtain ⟨⟨major, after⟩, -, h⟩ := Option.bind_eq_some_iff.mp h
  dsimp only at h
  split at h
  · obtain ⟨⟨minor, last⟩, -, heq⟩ := Option.bind_eq_some_iff.mp h
    cases heq
    exact Token.noConfusion
  · cases h

theorem ne_streamEnd_of_tagDirective? {cursor here : Cursor} {token : Token}
    (h : tagDirective? cursor = some (token, here)) : token ≠ .streamEnd := by
  obtain ⟨⟨handle, after⟩, -, h⟩ := Option.bind_eq_some_iff.mp h
  dsimp only at h
  split at h
  · cases h
  split at h
  · cases h
  obtain ⟨⟨expansion, last⟩, -, h⟩ := Option.bind_eq_some_iff.mp h
  dsimp only at h
  split at h
  · cases h
  · cases h
    exact Token.noConfusion

theorem ne_streamEnd_of_directive? {cursor here : Cursor} {token : Token}
    (h : directive? cursor = some (token, here)) : token ≠ .streamEnd := by
  have hlast : ∀ {found : Option (Token × Cursor)},
      (∀ token here, found = some (token, here) → token ≠ .streamEnd) →
      (found.bind fun read =>
        let cursor := (read.2.dropWhile isBlank).skipComment
        if atLineEnd cursor.text then some (read.1, cursor.skipBreak) else none) =
        some (token, here) → token ≠ .streamEnd := by
    intro found hfound h
    obtain ⟨⟨read, after⟩, hread, h⟩ := Option.bind_eq_some_iff.mp h
    dsimp only at h
    split at h
    · cases h
      exact hfound token after hread
    · cases h
  unfold directive? at h
  dsimp only at h
  split at h
  · cases h
  split at h
  · exact hlast (fun _ _ => ne_streamEnd_of_versionDirective?) h
  split at h
  · exact hlast (fun _ _ => ne_streamEnd_of_tagDirective?) h
  · cases h

namespace Layout

/-- Whether a step, if it is one, leaves the number of tokens with a property as it is. -/
def Keeps (p : Token → Bool) (layout : Layout) (step : Option Layout) : Prop :=
  ∀ next, step = some next → next.tokens.countP p = layout.tokens.countP p

/-! ## Parts of a step -/

section Parts

variable {p : Token → Bool} {layout : Layout}

theorem countP_push {token : Token} (htoken : p token = false) :
    (layout.push token).tokens.countP p = layout.tokens.countP p :=
  List.countP_cons_of_neg (by simp [htoken])

theorem countP_insertAt (position : Nat) {token : Token} (htoken : p token = false) :
    (layout.insertAt position token).tokens.countP p = layout.tokens.countP p := by
  change (layout.tokens.take (layout.count - position) ++
    token :: layout.tokens.drop (layout.count - position)).countP p = layout.tokens.countP p
  rw [List.countP_append, List.countP_cons_of_neg (by simp [htoken]), ← List.countP_append,
    List.take_append_drop]

theorem countP_openBlock (column position : Nat) {opening : Token}
    (hopening : p opening = false) :
    (layout.openBlock column position opening).tokens.countP p = layout.tokens.countP p := by
  rw [openBlock]
  split
  · exact countP_insertAt position hopening
  · rfl

theorem countP_closeBlocks (hend : p .blockEnd = false) (column : Int) :
    (layout.closeBlocks column).tokens.countP p = layout.tokens.countP p := by
  rw [closeBlocks]
  split
  · rfl
  · change (List.replicate (blocksPast column layout.indent layout.outerIndents).1 Token.blockEnd ++
      layout.tokens).countP p = layout.tokens.countP p
    rw [List.countP_append, List.countP_replicate, if_neg (by simp [hend]), Nat.zero_add]

theorem tokens_of_dropStale? {next : Layout} (h : layout.dropStale? = some next) :
    next.tokens = layout.tokens := by
  obtain ⟨outerPending, -, h⟩ := Option.bind_eq_some_iff.mp h
  obtain ⟨pending, -, heq⟩ := Option.bind_eq_some_iff.mp h
  cases heq
  rfl

theorem tokens_of_dropPending? {next : Layout} (h : layout.dropPending? = some next) :
    next.tokens = layout.tokens := by
  rw [dropPending?] at h
  split at h
  · split at h
    · cases h
    · cases h
      rfl
  · cases h
    rfl

theorem tokens_of_savePending? {next : Layout} (h : layout.savePending? = some next) :
    next.tokens = layout.tokens := by
  rw [savePending?] at h
  split at h
  · obtain ⟨dropped, hdropped, heq⟩ := Option.bind_eq_some_iff.mp h
    have htokens := tokens_of_dropPending? hdropped
    cases heq
    exact htokens
  · cases h
    rfl

theorem cursor_of_savePending? {next : Layout} (h : layout.savePending? = some next) :
    next.cursor = layout.cursor := by
  rw [savePending?] at h
  split at h
  · obtain ⟨dropped, hdropped, heq⟩ := Option.bind_eq_some_iff.mp h
    rw [dropPending?] at hdropped
    cases heq
    split at hdropped
    · split at hdropped
      · cases hdropped
      · cases hdropped
        rfl
    · cases hdropped
      rfl
  · cases h
    rfl

end Parts

/-! ## Steps -/

section Steps

variable {p : Token → Bool} (layout : Layout)

theorem keeps_documentSign? (hend : p .blockEnd = false) {sign : Option (Token × Cursor)}
    (hsign : ∀ token here, sign = some (token, here) → p token = false) :
    layout.Keeps p (layout.documentSign? sign) := by
  intro next h
  obtain ⟨dropped, hdropped, h⟩ := Option.bind_eq_some_iff.mp h
  obtain ⟨⟨token, here⟩, htoken, heq⟩ := Option.bind_eq_some_iff.mp h
  cases heq
  refine (countP_push (hsign token here htoken)).trans ?_
  change dropped.tokens.countP p = layout.tokens.countP p
  rw [tokens_of_dropPending? hdropped, countP_closeBlocks hend]

theorem keeps_openBracket? {token : Token} (htoken : p token = false) :
    layout.Keeps p (layout.openBracket? token) := by
  intro next h
  obtain ⟨saved, hsaved, heq⟩ := Option.bind_eq_some_iff.mp h
  cases heq
  refine (countP_push htoken).trans ?_
  change saved.tokens.countP p = layout.tokens.countP p
  rw [tokens_of_savePending? hsaved]

theorem keeps_closeBracket? {token : Token} (htoken : p token = false) :
    layout.Keeps p (layout.closeBracket? token) := by
  intro next h
  obtain ⟨dropped, hdropped, heq⟩ := Option.bind_eq_some_iff.mp h
  have hkept : dropped.tokens.countP p = layout.tokens.countP p := by
    rw [tokens_of_dropPending? hdropped]
  cases heq
  refine (countP_push htoken).trans ?_
  cases houter : dropped.outerPending <;> exact hkept

theorem keeps_comma? (hcomma : p .comma = false) : layout.Keeps p layout.comma? := by
  intro next h
  obtain ⟨dropped, hdropped, heq⟩ := Option.bind_eq_some_iff.mp h
  cases heq
  refine (countP_push hcomma).trans ?_
  change dropped.tokens.countP p = layout.tokens.countP p
  rw [tokens_of_dropPending? hdropped]

theorem keeps_item? (hopening : p .blockListStart = false) (hitem : p .item = false) :
    layout.Keeps p layout.item? := by
  intro next h
  rw [item?] at h
  split at h
  · cases h
  · obtain ⟨dropped, hdropped, heq⟩ := Option.bind_eq_some_iff.mp h
    cases heq
    refine (countP_push hitem).trans ?_
    change dropped.tokens.countP p = layout.tokens.countP p
    rw [tokens_of_dropPending? hdropped, countP_openBlock _ _ hopening]

theorem keeps_key? (hopening : p .blockTableStart = false) (hkey : p .key = false) :
    layout.Keeps p layout.key? := by
  intro next h
  rw [key?] at h
  split at h
  · cases h
  · obtain ⟨dropped, hdropped, heq⟩ := Option.bind_eq_some_iff.mp h
    cases heq
    refine (countP_push hkey).trans ?_
    change dropped.tokens.countP p = layout.tokens.countP p
    rw [tokens_of_dropPending? hdropped, countP_openBlock _ _ hopening]

/-- With its value, a key may be put in front of the pending token, and the start of a table. -/
theorem keeps_value? (hopening : p .blockTableStart = false) (hkey : p .key = false)
    (hvalue : p .value = false) : layout.Keeps p layout.value? := by
  intro next h
  rw [value?] at h
  split at h
  · rename_i key hpending
    cases h
    refine (countP_push hvalue).trans ?_
    change ((layout.insertAt key.position .key).openBlock key.mark.column key.position
      .blockTableStart).tokens.countP p = layout.tokens.countP p
    rw [countP_openBlock _ _ hopening, countP_insertAt _ hkey]
  · split at h
    · cases h
    · cases h
      exact (countP_push hvalue).trans (countP_openBlock _ _ hopening)

theorem keeps_nodeSign? {read : Cursor → Option (Token × Cursor)}
    (hread : ∀ token here, read layout.cursor = some (token, here) → p token = false) :
    layout.Keeps p (layout.nodeSign? read) := by
  intro next h
  obtain ⟨saved, hsaved, h⟩ := Option.bind_eq_some_iff.mp h
  obtain ⟨⟨token, here⟩, htoken, heq⟩ := Option.bind_eq_some_iff.mp h
  -- the token is read where the layout stood
  have hcursor : saved.cursor = layout.cursor := cursor_of_savePending? hsaved
  rw [hcursor] at htoken
  cases heq
  refine (countP_push (hread token here htoken)).trans ?_
  change saved.tokens.countP p = layout.tokens.countP p
  rw [tokens_of_savePending? hsaved]

theorem keeps_block? {style : Style} (hscalar : ∀ text, p (.scalar style text) = false) :
    layout.Keeps p (layout.block? style) := by
  intro next h
  obtain ⟨dropped, hdropped, h⟩ := Option.bind_eq_some_iff.mp h
  obtain ⟨⟨text, here⟩, -, heq⟩ := Option.bind_eq_some_iff.mp h
  cases heq
  refine (countP_push (hscalar _)).trans ?_
  change dropped.tokens.countP p = layout.tokens.countP p
  rw [tokens_of_dropPending? hdropped]

theorem keeps_plain? (hscalar : ∀ text, p (.scalar .plain text) = false) :
    layout.Keeps p layout.plain? := by
  intro next h
  obtain ⟨saved, hsaved, h⟩ := Option.bind_eq_some_iff.mp h
  obtain ⟨⟨text, crossesLine, here⟩, -, heq⟩ := Option.bind_eq_some_iff.mp h
  cases heq
  refine (countP_push (hscalar _)).trans ?_
  change saved.tokens.countP p = layout.tokens.countP p
  rw [tokens_of_savePending? hsaved]

/-- The end of the text is a token of its own, after the ends of all blocks. -/
theorem head?_of_atEnd? {next : Layout} (h : layout.atEnd? = some next) :
    next.tokens.head? = some .streamEnd := by
  obtain ⟨dropped, -, heq⟩ := Option.bind_eq_some_iff.mp h
  cases heq
  rfl

theorem keeps_atEnd? (hend : p .blockEnd = false) (hstream : p .streamEnd = false) :
    layout.Keeps p layout.atEnd? := by
  intro next h
  obtain ⟨dropped, hdropped, heq⟩ := Option.bind_eq_some_iff.mp h
  cases heq
  refine (countP_push hstream).trans ?_
  change dropped.tokens.countP p = layout.tokens.countP p
  rw [tokens_of_dropPending? hdropped, countP_closeBlocks hend]

end Steps

/-! ## The end of the text among the tokens -/

/-- Whether a token is the end of the text. -/
def isEnd (token : Token) : Bool :=
  token == .streamEnd

theorem isEnd_eq_false {token : Token} (h : token ≠ .streamEnd) : isEnd token = false :=
  beq_false_of_ne h

/-- No token that begins with a character is the end of the text. -/
theorem keeps_token? (layout : Layout) (c : Char) (rest : List Char) :
    layout.Keeps isEnd (layout.token? c rest) := by
  unfold token?
  dsimp only
  split
  · exact keeps_documentSign? _ rfl fun _ _ h => isEnd_eq_false (ne_streamEnd_of_directive? h)
  split
  · refine keeps_documentSign? _ rfl fun token here h => ?_
    cases h
    split <;> rfl
  split
  · exact keeps_openBracket? _ rfl
  · exact keeps_openBracket? _ rfl
  · exact keeps_closeBracket? _ rfl
  · exact keeps_closeBracket? _ rfl
  · exact keeps_comma? _ rfl
  · exact keeps_nodeSign? _ fun _ _ h =>
      isEnd_eq_false (ne_streamEnd_of_anchorToken? (fun _ => Token.noConfusion) h)
  · exact keeps_nodeSign? _ fun _ _ h =>
      isEnd_eq_false (ne_streamEnd_of_anchorToken? (fun _ => Token.noConfusion) h)
  · exact keeps_nodeSign? _ fun _ _ h => isEnd_eq_false (ne_streamEnd_of_tag? h)
  · exact keeps_nodeSign? _ fun _ _ h => isEnd_eq_false (ne_streamEnd_of_quotedToken? h)
  · exact keeps_nodeSign? _ fun _ _ h => isEnd_eq_false (ne_streamEnd_of_quotedToken? h)
  · split
    · exact keeps_item? _ rfl rfl
    split
    · exact keeps_key? _ rfl rfl
    split
    · exact keeps_value? _ rfl rfl rfl
    split
    · exact keeps_block? _ fun _ => rfl
    split
    · exact keeps_block? _ fun _ => rfl
    split
    · exact keeps_plain? _ fun _ => rfl
    · intro next h
      cases h

/-- Before a token, only blocks end. -/
theorem countP_of_beforeToken? {p : Token → Bool} (hend : p .blockEnd = false)
    {layout here : Layout} (h : layout.beforeToken? = some here) :
    here.tokens.countP p = layout.tokens.countP p := by
  obtain ⟨dropped, hdropped, rfl⟩ := Option.map_eq_some_iff.mp h
  rw [countP_closeBlocks hend, tokens_of_dropStale? hdropped]
  rfl

/-- A step either ends the text or leaves the end to a later one. -/
theorem head?_or_countP_of_next? {layout next : Layout} (h : layout.next? = some next) :
    next.tokens.head? = some .streamEnd ∨
      next.tokens.countP isEnd = layout.tokens.countP isEnd := by
  rw [next?_eq] at h
  obtain ⟨here, hhere, h⟩ := Option.bind_eq_some_iff.mp h
  obtain ⟨taken, htaken, h⟩ := Option.bind_eq_some_iff.mp h
  rw [tokens_of_dropStale? h, ← countP_of_beforeToken? rfl hhere]
  -- what is left of the text decides: nothing, or a character
  split at htaken
  · exact Or.inl (head?_of_atEnd? _ htaken)
  · exact Or.inr (keeps_token? _ _ _ _ htaken)

/-- What may stand after a fault is part of what was read before it. -/
theorem countP_settledTokens {layout : Layout} (hopen : layout.tokens.countP isEnd = 0) :
    layout.settledTokens.countP isEnd = 0 := by
  apply Nat.eq_zero_of_le_zero
  calc layout.settledTokens.countP isEnd
      = (layout.tokens.drop (layout.count - layout.settled)).countP isEnd := by
        rw [settledTokens, List.countP_reverse]
    _ ≤ layout.tokens.countP isEnd := (List.drop_sublist _ _).countP_le
    _ = 0 := hopen

/-- A run that goes wrong does not have the end of the text among its tokens. -/
theorem countP_tokensFrom {steps : Nat} {layout : Layout} (hopen : layout.tokens.countP isEnd = 0)
    (h : run? steps layout = none) : (layout.tokensFrom steps).countP isEnd = 0 := by
  induction steps generalizing layout with
  | zero => exact countP_settledTokens hopen
  | succ steps ih =>
      rw [run?] at h
      rw [tokensFrom]
      cases hnext : layout.next? with
      | none => exact countP_settledTokens hopen
      | some next =>
          rw [hnext] at h
          dsimp only at h ⊢
          split at h
          · cases h
          · rename_i hhead
            -- the run goes on, so the step was not the last one
            have hkept := (head?_or_countP_of_next? hnext).resolve_left hhead
            rw [hopen] at hkept
            rw [if_neg hhead]
            exact ih hkept h

end Layout

end StorageSurvey.Yaml
