import StorageSurvey.Proofs.Yaml.Scalars

/-!
# Steps over keys

A key that stands before a colon on its line is a pending key until its colon comes.  It must not
be too long for that: the writer bounds its size in bytes, and every byte is written with at most
four characters, so that it stays far below the length at which the reader gives up.
-/

namespace StorageSurvey.Yaml

/-! ## The length of a key -/

theorem utf8ByteSize_cons (c : Char) (text : List Char) :
    (String.ofList (c :: text)).utf8ByteSize =
      c.utf8Size + (String.ofList text).utf8ByteSize := by
  rw [String.ofList_cons, String.utf8ByteSize_append, String.utf8ByteSize_singleton]

theorem length_doubleQuotedChar_le (c : Char) : (doubleQuotedChar c).length ≤ 4 * c.utf8Size := by
  have hpos := c.utf8Size_pos
  have hone : c.utf8Size = 1 ↔ c.toNat ≤ 0x7F := by
    rw [Char.utf8Size_eq_one_iff, UInt32.le_iff_toNat_le]
    rfl
  have hfour : c.utf8Size = 4 ↔ 0xFFFF < c.toNat := by
    rw [Char.utf8Size_eq_four_iff, UInt32.lt_iff_toNat_lt]
    rfl
  rw [doubleQuotedChar]
  split
  · simp
    omega
  · split
    · simp
      omega
    · split
      · rw [List.length_cons, List.length_cons, length_hexDigits]
        omega
      · split
        · rw [List.length_cons, List.length_cons, length_hexDigits]
          omega
        · rw [List.length_cons, List.length_cons, length_hexDigits]
          omega

/-- Characters that are written with at most four characters a byte. -/
theorem length_flatMap_le {write : Char → List Char}
    (hwrite : ∀ c, (write c).length ≤ 4 * c.utf8Size) (text : List Char) :
    (text.flatMap write).length ≤ 4 * (String.ofList text).utf8ByteSize := by
  induction text with
  | nil => simp
  | cons c text ih =>
      have := hwrite c
      rw [List.flatMap_cons, List.length_append, utf8ByteSize_cons]
      omega

/-- On one line, single quotes only double the quotes. -/
theorem singleQuotedBody_eq_flatMap (indent : Nat) {text : List Char}
    (h : ∀ c ∈ text, endsLine c = false) :
    singleQuotedBody indent false text =
      text.flatMap fun c => if c = '\'' then ['\'', '\''] else [c] := by
  induction text with
  | nil => rfl
  | cons c text ih =>
      rw [singleQuotedBody, if_neg (by simp [h c List.mem_cons_self]),
        ih fun d hd => h d (List.mem_cons_of_mem _ hd)]
      rfl

/-! ## Simple keys -/

/-- What `isSimpleKey` says, apart. -/
theorem of_isSimpleKey {key : String} (h : isSimpleKey key = true) :
    key.utf8ByteSize ≤ maxKeySize ∧ ∀ c ∈ key.toList, endsLine c = false := by
  simp only [isSimpleKey, Bool.and_eq_true, decide_eq_true_eq, Bool.not_eq_true',
    List.any_eq_false] at h
  exact ⟨h.1, fun c hc => by simpa using h.2 c hc⟩

/-- A simple key has the style of its text, which is none with lines of its own. -/
theorem simpleKey_eq {key : String} (h : isSimpleKey key = true) :
    (styleOf key = .plain ∧ simpleKey key = key.toList ∨
      styleOf key = .singleQuoted ∧ simpleKey key = singleQuoted 0 key.toList) ∨
        styleOf key = .doubleQuoted ∧ simpleKey key = doubleQuoted key.toList := by
  have hfeed : '\n' ∉ key.toList := by
    intro hmem
    have := (of_isSimpleKey h).2 _ hmem
    cases this
  rw [simpleKey]
  cases hstyle : styleOf key with
  | plain => exact Or.inl (Or.inl ⟨rfl, rfl⟩)
  | singleQuoted => exact Or.inl (Or.inr ⟨rfl, rfl⟩)
  | doubleQuoted => exact Or.inr ⟨rfl, rfl⟩
  | literal => exact absurd (of_styleOf_eq_literal hstyle).2.2 hfeed
  | folded => exact absurd hstyle (styleOf_ne_folded key)

/-- A simple key is written on one line. -/
theorem isInline_simpleKey {key : String} (h : isSimpleKey key = true) :
    ∀ c ∈ simpleKey key, isInline c = true := by
  have hends := (of_isSimpleKey h).2
  rcases simpleKey_eq h with (⟨hstyle, hkey⟩ | ⟨hstyle, hkey⟩) | ⟨-, hkey⟩
  · rw [hkey]
    exact (allowsPlain_iff.mp (of_styleOf_eq_plain hstyle).2.1).1
  · intro c hc
    have hprint := (of_styleOf_eq_singleQuoted hstyle).1
    simp only [allowsSingleQuotes, Bool.and_eq_true, List.all_eq_true] at hprint
    rw [hkey, singleQuoted, singleQuotedBody_eq_flatMap 0 hends] at hc
    simp only [List.cons_append, List.mem_cons, List.mem_append, List.mem_flatMap,
      List.not_mem_nil, or_false] at hc
    rcases hc with rfl | ⟨d, hd, hc⟩ | rfl
    · rfl
    · split at hc
      · simp only [List.mem_cons, List.not_mem_nil, or_false, or_self] at hc
        rw [hc]
        rfl
      · rw [List.mem_singleton] at hc
        rw [hc, isInline, hprint.1.1 d hd, hends d hd]
        rfl
    · rfl
  · rw [hkey]
    exact isInline_doubleQuoted _

theorem length_simpleKey_le {key : String} (h : isSimpleKey key = true) :
    (simpleKey key).length ≤ Layout.maxKeyLength := by
  obtain ⟨hsize, hends⟩ := of_isSimpleKey h
  have hsize : (String.ofList key.toList).utf8ByteSize ≤ 128 := by
    rw [String.ofList_toList]
    exact hsize
  rw [Layout.maxKeyLength]
  -- every style writes at most four characters for a byte, and two quotes
  rcases simpleKey_eq h with (⟨-, hkey⟩ | ⟨-, hkey⟩) | ⟨-, hkey⟩
  · have hwritten : ∀ c : Char, [c].length ≤ 4 * c.utf8Size := by
      intro c
      have := c.utf8Size_pos
      rw [List.length_singleton]
      omega
    have hlength := length_flatMap_le hwritten key.toList
    rw [List.flatMap_singleton'] at hlength
    rw [hkey]
    omega
  · have hwritten : ∀ c : Char,
        (if c = '\'' then ['\'', '\''] else [c]).length ≤ 4 * c.utf8Size := by
      intro c
      have := c.utf8Size_pos
      split
      · rw [List.length_cons, List.length_singleton]
        omega
      · rw [List.length_singleton]
        omega
    have hlength := length_flatMap_le hwritten key.toList
    rw [hkey, singleQuoted, singleQuotedBody_eq_flatMap 0 hends]
    simp only [List.cons_append, List.length_cons, List.length_append, List.length_nil]
    omega
  · have hlength := length_flatMap_le length_doubleQuotedChar_le key.toList
    rw [hkey, doubleQuoted]
    simp only [List.cons_append, List.length_cons, List.length_append, List.length_nil]
    omega

/-! ## The key and its colon -/

namespace Layout

theorem exists_sign_simpleKey {key : String} (h : isSimpleKey key = true) :
    ∃ c rest, simpleKey key = c :: rest ∧ isSign c = true := by
  rcases simpleKey_eq h with (⟨hstyle, hkey⟩ | ⟨-, hkey⟩) | ⟨-, hkey⟩
  · obtain ⟨-, hallows, hne⟩ := of_styleOf_eq_plain hstyle
    obtain ⟨c, rest, htext⟩ := List.exists_cons_of_ne_nil hne
    rw [htext] at hallows
    exact ⟨c, rest, hkey.trans htext, isSign_of_allowsPlain hallows⟩
  · exact ⟨'\'', _, hkey, by decide⟩
  · exact ⟨'"', _, hkey, by decide⟩

theorem not_isStale_simpleKey {key : String} (h : isSimpleKey key = true) (position : Nat)
    (mark : Mark) (required : Bool) :
    isStale (mark.ahead (simpleKey key).length) ⟨position, mark, required⟩ = false := by
  have := length_simpleKey_le h
  simp [isStale, Mark.ahead]
  omega

section Steps

variable {key : String} (hkey : isSimpleKey key = true) {tokens : List Token} {indent : Int}
  {outer : List Int} {mark : Mark} {rest : List Char} (hrest : atGap rest = true)

include hkey hrest

/-- A key waits for its colon. -/
theorem next?_simpleKey (hcolumn : indent ≤ mark.column) :
    (ready tokens indent outer mark (simpleKey key ++ ':' :: rest)).next? =
      some (outside (.scalar (styleOf key) key :: tokens) indent outer
        (some ⟨tokens.length, mark, indent == mark.column⟩) false
        (mark.ahead (simpleKey key).length) (':' :: rest)) := by
  have hmark : mark.after (simpleKey key) = mark.ahead (simpleKey key).length :=
    mark.after_eq_ahead fun c hc => isBreak_of_isInline (isInline_simpleKey hkey c hc)
  have hstale := not_isStale_simpleKey hkey tokens.length mark (indent == mark.column)
  -- all styles lead to the same layout, in which the key is not stale
  suffices hread : (ready tokens indent outer mark (simpleKey key ++ ':' :: rest)).next? =
      (outside (.scalar (styleOf key) (String.ofList key.toList) :: tokens) indent outer
        (keyAt true tokens.length indent mark) false (mark.after (simpleKey key))
        (':' :: rest)).dropStale? by
    rw [hread, String.ofList_toList, hmark]
    exact dropStale?_of_not_isStale hstale
  have hends := (of_isSimpleKey hkey).2
  rcases simpleKey_eq hkey with (⟨hstyle, hwritten⟩ | ⟨hstyle, hwritten⟩) | ⟨hstyle, hwritten⟩
  · obtain ⟨-, hallows, hne⟩ := of_styleOf_eq_plain hstyle
    have hdash : (':' :: rest).head? ≠ some '-' := by simp
    have hpoint : (':' :: rest).head? ≠ some '.' := by simp
    have hread : plainFrom ⟨false, (indent + 1).toNat⟩ .empty false mark
        (key.toList ++ ':' :: rest) =
        some (key.toList, false, ⟨':' :: rest, mark.after key.toList⟩) := by
      rw [plainFrom_text rfl hne hallows (by dsimp only; omega) hdash hpoint,
        plainFrom_colon rfl hrest, Folding.value,
        List.reverse_reverse]
      rfl
    rw [hwritten, hstyle]
    exact next?_plain hcolumn hne hallows hdash hpoint hread
  · obtain ⟨hallows, hfeed⟩ := of_styleOf_eq_singleQuoted hstyle
    have hnoEnd : key.toList.any endsLine = true → 0 < 0 := by
      intro h
      obtain ⟨c, hc, hcEnds⟩ := List.any_eq_true.mp h
      rw [hends c hc] at hcEnds
      cases hcEnds
    rw [hwritten, hstyle]
    exact next?_singleQuoted hcolumn hallows hfeed hnoEnd (by simp)
  · rw [hwritten, hstyle]
    exact next?_doubleQuoted hcolumn key.toList (':' :: rest)

end Steps

/-- The colon makes the pending key a key, once it is known which block that is in. -/
theorem next?_colon {token : Token} {tokens tokens' : List Token} {indent indent' : Int}
    {outer outer' : List Int} {key : PendingKey} (hposition : key.position = tokens.length)
    {mark : Mark} (hcolumn : indent ≤ mark.column) (hstale : isStale mark key = false)
    {rest : List Char} (hrest : atGap rest = true)
    (hopen : (outside (token :: .key :: tokens) indent outer (some key) false mark
      (':' :: rest)).openBlock key.mark.column tokens.length .blockTableStart =
      outside tokens' indent' outer' (some key) false mark (':' :: rest)) :
    (outside (token :: tokens) indent outer (some key) false mark (':' :: rest)).next? =
      some (outside (.value :: tokens') indent' outer' none false (mark.ahead 1) rest) := by
  have hkept : refresh mark (some key) = some (some key) := by simp [refresh, hstale]
  -- the sign of the key is put in front of its scalar
  have hinsert : (outside (token :: tokens) indent outer (some key) false mark
      (':' :: rest)).insertAt tokens.length .key =
      outside (token :: .key :: tokens) indent outer (some key) false mark (':' :: rest) := by
    simp [insertAt, outside]
  have hvalue : (outside (token :: tokens) indent outer (some key) false mark
      (':' :: rest)).value? =
      some (outside (.value :: tokens') indent' outer' none false (mark.ahead 1) rest) := by
    have hpending : (outside (token :: tokens) indent outer (some key) false mark
        (':' :: rest)).value? =
        some (({ ((outside (token :: tokens) indent outer (some key) false mark
          (':' :: rest)).insertAt key.position .key).openBlock key.mark.column key.position
            .blockTableStart with pending := none, keyAllowed := false }.skip 1).push .value) := rfl
    rw [hpending, hposition, hinsert, hopen]
    rfl
  rw [next?_outside (by decide) hcolumn hkept, token?_value hrest, hvalue, Option.bind_some]
  exact dropStale?_none

section Steps

variable {key : String} (hkey : isSimpleKey key = true) {tokens : List Token} {indent : Int}
  {outer : List Int} {mark : Mark} {rest : List Char} (hrest : atGap rest = true)

include hkey hrest

/-- A key before a colon, in a table or at its start. -/
theorem reaches_simpleKey {tokens' : List Token} {outer' : List Int}
    (henters : Enters .blockTableStart mark.column tokens indent outer tokens' outer') :
    (ready tokens indent outer mark (simpleKey key ++ ':' :: rest)).Reaches
      (outside (.value :: .scalar (styleOf key) key :: .key :: tokens') mark.column outer' none
        false (mark.ahead ((simpleKey key).length + 1)) rest) := by
  have hstale := not_isStale_simpleKey hkey tokens.length mark (indent == mark.column)
  have hcolumn : indent ≤ (mark.ahead (simpleKey key).length).column := by
    have := henters.le
    simp only [Mark.ahead]
    omega
  have hcolon := next?_colon rfl hcolumn hstale hrest
    (henters.openBlock_eq [.scalar (styleOf key) key, .key])
  rw [Mark.ahead_ahead] at hcolon
  refine (Reaches.of_next? (next?_simpleKey hkey hrest henters.le)
    (by simp [outside]) rfl ?_).trans
    (Reaches.of_next? hcolon (by simp [outside]) rfl (Nat.lt_succ_self _))
  obtain ⟨c, after, hwritten, -⟩ := exists_sign_simpleKey hkey
  change (':' :: rest).length < (simpleKey key ++ ':' :: rest).length
  rw [hwritten, List.length_append]
  exact Nat.lt_add_of_pos_left (Nat.succ_pos after.length)

end Steps

end Layout

end StorageSurvey.Yaml
