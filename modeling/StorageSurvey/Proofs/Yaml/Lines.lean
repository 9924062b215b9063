import StorageSurvey.Proofs.Number.Digits
import StorageSurvey.Proofs.Yaml.Keys

/-!
# The tokens of written YAML

The lines of a value are cut into the tokens of the value, wherever it stands: at the column of a
block, or after a key and a colon.  What follows a value is not indented more deeply than the block
around it, so its own blocks end there.
-/

namespace StorageSurvey.Yaml

open StorageSurvey.Document

/-! ## Tokens -/

mutual

/-- The tokens of a value.  A list that is `bare` is not indented below the key before it, so no
tokens tell where it starts and ends. -/
def valueTokens (bare : Bool) : Datum → List Token
  | .null => [.scalar .plain "null"]
  | .natural value => [.scalar .plain (String.ofList (Nat.toDigits 10 value))]
  | .text value => [.scalar (styleOf value) value]
  | .list items =>
      if items.isEmpty then [.flowListStart, .flowListEnd]
      else if bare then itemTokens items
      else .blockListStart :: itemTokens items ++ [.blockEnd]
  | .record fields =>
      if fields.isEmpty then [.flowTableStart, .flowTableEnd]
      else .blockTableStart :: fieldTokens fields ++ [.blockEnd]

/-- The tokens of the items of a list. -/
def itemTokens : List Datum → List Token
  | [] => []
  | item :: items => .item :: valueTokens false item ++ itemTokens items

/-- The tokens of the fields of a record. -/
def fieldTokens : List (String × Datum) → List Token
  | [] => []
  | (name, value) :: fields =>
      .key :: .scalar (styleOf name) name :: .value :: valueTokens (isSimpleKey name) value ++
        fieldTokens fields

end

/-! ## Numbers as plain texts -/

theorem hasInnerSign_of_ne {text : List Char} (h : ∀ c ∈ text, c ≠ ':' ∧ c ≠ ' ') :
    hasInnerSign text = false := by
  induction text with
  | nil => rfl
  | cons c rest ih =>
      have hc := h c List.mem_cons_self
      unfold hasInnerSign
      split
      case h_1 heq => cases heq
      case h_2 heq =>
        cases heq
        exact absurd rfl hc.1
      case h_3 heq =>
        cases heq
        exact absurd rfl hc.2
      case h_4 heq =>
        cases heq
        exact ih fun d hd => h d (List.mem_cons_of_mem _ hd)

theorem allowsPlain_of_isDigit {text : List Char} (h : ∀ c ∈ text, c.isDigit = true) :
    allowsPlain text = true := by
  have hne : ∀ c ∈ text, ∀ d : Char, d.isDigit = false → c ≠ d := by
    rintro c hc d hd rfl
    rw [h c hc] at hd
    cases hd
  have hinline : ∀ c ∈ text, isInline c = true := by
    intro c hc
    have hdigit := h c hc
    simp only [Char.isDigit, Bool.and_eq_true, decide_eq_true_eq, ge_iff_le,
      UInt32.le_iff_toNat_le] at hdigit
    have hvalue : c.toNat = c.val.toNat := rfl
    -- a digit is printable, and no sign is one
    have hprint : isPrintable c = true := by
      simp only [isPrintable, Bool.or_eq_true, Bool.and_eq_true, decide_eq_true_eq]
      simp at hdigit
      omega
    have hends : endsLine c = false := by
      simp [endsLine, hne c hc '\n' rfl, hne c hc '\r' rfl, hne c hc '\u0085' rfl,
        hne c hc '\u2028' rfl, hne c hc '\u2029' rfl]
    simp [isInline, hprint, hends]
  rw [allowsPlain_iff]
  refine ⟨hinline, ?_, ?_, ?_, ?_⟩
  · exact fun hhead => hne ' ' (List.mem_of_head? hhead) ' ' rfl rfl
  · exact fun hlast => hne ' ' (List.mem_of_getLast? hlast) ' ' rfl rfl
  · unfold hasLeadingSign
    split
    case h_1 => exact absurd rfl (hne '-' List.mem_cons_self '-' rfl)
    case h_2 => exact absurd rfl (hne '.' List.mem_cons_self '.' rfl)
    case h_3 c rest _ _ =>
      have hc := hne c List.mem_cons_self
      simp [isLeadingSign, hc '#' rfl, hc ',' rfl, hc '[' rfl, hc ']' rfl, hc '\x7b' rfl,
        hc '\x7d' rfl, hc '&' rfl, hc '*' rfl, hc '!' rfl, hc '|' rfl, hc '>' rfl,
        hc '\'' rfl, hc '"' rfl, hc '%' rfl, hc '@' rfl, hc '\x60' rfl, hc '-' rfl, hc '?' rfl]
    case h_4 => rfl
  · exact hasInnerSign_of_ne fun c hc => ⟨hne c hc ':' rfl, hne c hc ' ' rfl⟩

theorem allowsPlain_toDigits (value : Nat) : allowsPlain (Nat.toDigits 10 value) = true :=
  allowsPlain_of_isDigit fun _ => Number.isDigit_of_mem_toDigits

/-! ## The lines after a value -/

namespace Layout

theorem Follows.mono {inner outer : Int} {text : List Char} (h : Follows inner text)
    (hle : inner ≤ outer) : Follows outer text := by
  obtain ⟨n, rest, htext, hrest, hn⟩ := h
  exact ⟨n, rest, htext, hrest, by omega⟩

theorem follows_sign {c : Char} (hc : isSign c = true) {column : Nat} (rest : List Char) :
    Follows column (spaces column ++ c :: rest) := by
  refine ⟨column, c :: rest, rfl, fun d hd => ?_, Int.le_refl _⟩
  rw [List.head?_cons, Option.some.injEq] at hd
  rw [← hd, hc]

theorem follows_itemLines {column : Nat} {rest : List Char} (h : Follows column rest)
    (items : List Datum) : Follows column (itemLines column items ++ rest) := by
  cases items with
  | nil => exact h
  | cons item items =>
      rw [itemLines, List.append_assoc, List.append_assoc]
      exact follows_sign rfl _

theorem exists_sign_keyText (column : Nat) (name : String) :
    ∃ c rest, keyText column name = c :: rest ∧ isSign c = true := by
  rw [keyText]
  split
  · rename_i hkey
    obtain ⟨c, rest, hwritten, hsign⟩ := exists_sign_simpleKey hkey
    exact ⟨c, rest ++ [':'], by rw [hwritten]; rfl, hsign⟩
  · exact ⟨'?', _, rfl, by decide⟩

theorem follows_fieldLines {column : Nat} {rest : List Char} (h : Follows column rest)
    (fields : List (String × Datum)) : Follows column (fieldLines column fields ++ rest) := by
  cases fields with
  | nil => exact h
  | cons field fields =>
      obtain ⟨c, after, hwritten, hsign⟩ := exists_sign_keyText column field.1
      rw [fieldLines, List.append_assoc, List.append_assoc, List.append_assoc, hwritten]
      exact follows_sign hsign _

/-! ## Runs to the start of a line -/

namespace ReachesLine

variable {layout : Layout} {tokens : List Token} {indent : Int} {outer : List Int}
  {text : List Char}

theorem refl {mark : Mark} (hmark : mark.column = 0) :
    (ready tokens indent outer mark text).ReachesLine tokens indent outer text :=
  ⟨mark, hmark, Reaches.refl _⟩

/-- What holds from the start of a line on, holds from before it. -/
theorem trans {tokens' : List Token} {indent' : Int} {outer' : List Int} {text' : List Char}
    (h : layout.ReachesLine tokens indent outer text)
    (hnext : ∀ mark, mark.column = 0 →
      (ready tokens indent outer mark text).ReachesLine tokens' indent' outer' text') :
    layout.ReachesLine tokens' indent' outer' text' := by
  obtain ⟨mark, hmark, hreaches⟩ := h
  exact of_reaches hreaches (hnext mark hmark)

/-- A block ends before a line that is indented less. -/
theorem close {around : Int} (h : layout.ReachesLine tokens indent (around :: outer) text)
    (hfollows : Follows around text) (haround : around < indent) :
    layout.ReachesLine (.blockEnd :: tokens) around outer text := by
  obtain ⟨mark, hmark, hreaches⟩ := h
  exact ⟨mark, hmark, hreaches.trans
    (Reaches.of_agrees (agrees_close hmark hfollows haround) (Nat.le_refl _))⟩

/-- The indentation of a line is skipped. -/
theorem of_spaces {tokens' : List Token} {indent' : Int} {outer' : List Int} {text' : List Char}
    {pending : Option PendingKey} {keyAllowed : Bool} {mark : Mark} (n : Nat)
    (h : (outside tokens indent outer pending keyAllowed (mark.ahead n) text).ReachesLine
      tokens' indent' outer' text') :
    (outside tokens indent outer pending keyAllowed mark (spaces n ++ text)).ReachesLine
      tokens' indent' outer' text' := by
  refine of_reaches (Reaches.of_agrees (agrees_spaces n) ?_) ?_
  · simp [outside]
  · rw [Mark.after_spaces]
    exact h

/-- The sign of the next line stands at the column that the line is indented to. -/
theorem exists_reaches_sign {n : Nat}
    (h : layout.ReachesLine tokens indent outer (spaces n ++ text)) :
    ∃ mark, mark.column = n ∧ layout.Reaches (ready tokens indent outer mark text) := by
  obtain ⟨mark, hmark, hreaches⟩ := h
  exact ⟨mark.ahead n, Mark.column_ahead hmark n, hreaches.trans (reaches_spaces n text)⟩

/-- The end of a line is skipped. -/
theorem of_lineEnd {tokens' : List Token} {indent' : Int} {outer' : List Int} {text' : List Char}
    {keyAllowed : Bool} {mark : Mark} {bound : Int} (hfollows : Follows bound text)
    (h : (ready tokens indent outer (mark.past '\n') text).ReachesLine tokens' indent' outer'
      text') :
    (outside tokens indent outer none keyAllowed mark ('\n' :: text)).ReachesLine
      tokens' indent' outer' text' :=
  of_reaches (Reaches.of_agrees (agrees_lineEnd (mayLapse_none mark) hfollows)
    (Nat.le_succ _)) h

end ReachesLine

/-! ## Values -/

/-- Whether the lines of a value are cut into its tokens, wherever it stands in a block. -/
structure Reads (value : Datum) : Prop where
  block : ∀ {tokens : List Token} {column : Nat} {outer : List Int} {mark : Mark}
    {rest : List Char}, mark.column = column + 2 → Follows column rest →
    (ready tokens column outer mark (lines (.block (column + 2)) value ++ rest)).ReachesLine
      ((valueTokens false value).reverse ++ tokens) column outer rest
  afterColon : ∀ {tokens : List Token} {column : Nat} {outer : List Int} {mark : Mark}
    {rest : List Char}, column < mark.column → Follows column rest →
    (outside tokens column outer none false mark
      (lines (.afterColon column) value ++ rest)).ReachesLine
      ((valueTokens true value).reverse ++ tokens) column outer rest

/-- Whether the lines of items are cut into their tokens, in a list that is under way. -/
def ItemsRead (items : List Datum) : Prop :=
  ∀ {tokens : List Token} {column : Nat} {outer : List Int} {mark : Mark} {rest : List Char},
    mark.column = 0 → Follows column rest →
    (ready tokens column outer mark (itemLines column items ++ rest)).ReachesLine
      ((itemTokens items).reverse ++ tokens) column outer rest

/-- Whether the lines of fields are cut into their tokens, in a record that is under way. -/
def FieldsRead (fields : List (String × Datum)) : Prop :=
  ∀ {tokens : List Token} {column : Nat} {outer : List Int} {mark : Mark} {rest : List Char},
    mark.column = 0 → Follows column rest →
    (ready tokens column outer mark (fieldLines column fields ++ rest)).ReachesLine
      ((fieldTokens fields).reverse ++ tokens) column outer rest

/-- A value that is written the same way wherever it stands, apart from its further lines. -/
theorem reads_of_scalar {value : Datum} (written : Nat → List Char) (own : List Token)
    (hlines : ∀ place, lines place value = place.beforeScalar ++ written place.textColumn)
    (htokens : ∀ bare, valueTokens bare value = own)
    (hread : ∀ {tokens : List Token} {column : Nat} {outer : List Int} {keyAllowed : Bool}
      {mark : Mark} {rest : List Char}, column < mark.column → Follows column rest →
      (outside tokens column outer none keyAllowed mark
        (written (column + 2) ++ rest)).ReachesLine (own.reverse ++ tokens) column outer rest) :
    Reads value := by
  constructor
  · intro tokens column outer mark rest hmark hfollows
    rw [hlines, htokens]
    exact hread (by omega) hfollows
  · intro tokens column outer mark rest hmark hfollows
    rw [hlines, htokens, List.append_assoc]
    refine ReachesLine.of_spaces 1 (hread ?_ hfollows)
    simp only [Mark.ahead]
    omega

theorem reads_null : Reads .null := by
  refine reads_of_scalar (fun _ => ['n', 'u', 'l', 'l'] ++ ['\n']) [.scalar .plain "null"]
    (fun place => by rw [lines]; rfl) (fun bare => by rw [valueTokens]) ?_
  intro tokens column outer keyAllowed mark rest hmark hfollows
  rw [List.append_assoc]
  exact reachesLine_plain hmark hfollows (by simp) (by decide)

theorem reads_natural (value : Nat) : Reads (.natural value) := by
  refine reads_of_scalar (fun _ => Nat.toDigits 10 value ++ ['\n'])
    [.scalar .plain (String.ofList (Nat.toDigits 10 value))]
    (fun place => by rw [lines, List.append_assoc]) (fun bare => by rw [valueTokens]) ?_
  intro tokens column outer keyAllowed mark rest hmark hfollows
  rw [List.append_assoc]
  exact reachesLine_plain hmark hfollows Nat.toDigits_ne_nil (allowsPlain_toDigits value)

theorem reads_text (value : String) : Reads (.text value) := by
  refine reads_of_scalar (fun column => textLine column value) [.scalar (styleOf value) value]
    (fun place => by rw [lines]) (fun bare => by rw [valueTokens]) ?_
  intro tokens column outer keyAllowed mark rest hmark hfollows
  exact reachesLine_textLine hmark hfollows value

theorem reads_emptyList : Reads (.list []) := by
  refine reads_of_scalar (fun _ => ['[', ']', '\n']) [.flowListStart, .flowListEnd]
    (fun place => by rw [lines]) (fun bare => by rw [valueTokens]; rfl) ?_
  intro tokens column outer keyAllowed mark rest hmark hfollows
  exact reachesLine_brackets (by decide) (by omega) hfollows

theorem reads_emptyRecord : Reads (.record []) := by
  refine reads_of_scalar (fun _ => ['\x7b', '\x7d', '\n']) [.flowTableStart, .flowTableEnd]
    (fun place => by rw [lines]) (fun bare => by rw [valueTokens]; rfl) ?_
  intro tokens column outer keyAllowed mark rest hmark hfollows
  exact reachesLine_brackets (by decide) (by omega) hfollows

/-! ## Lists -/

/-- The first item of a list, which may open its block, and the others. -/
theorem reachesLine_items {item : Datum} (hitem : Reads item) {items : List Datum}
    (hitems : ItemsRead items) {tokens tokens' : List Token} {indent : Int}
    {outer outer' : List Int} {column : Nat} {mark : Mark} (hmark : mark.column = column)
    (henters : Enters .blockListStart column tokens indent outer tokens' outer')
    {rest : List Char} (hfollows : Follows column rest) :
    (ready tokens indent outer mark ('-' :: ' ' :: lines (.block (column + 2)) item ++
      itemLines column items ++ rest)).ReachesLine
      ((itemTokens (item :: items)).reverse ++ tokens') column outer' rest := by
  subst hmark
  have hsign : ('-', .blockListStart, .item) ∈ blockSigns := by decide
  have hvalue := ReachesLine.of_reaches (reaches_blockSign hsign henters _)
    (hitem.block rfl (follows_itemLines hfollows items))
  have hline := hvalue.trans fun mark' hmark' => hitems hmark' hfollows
  simpa [itemTokens] using hline

theorem itemsRead_nil : ItemsRead [] :=
  fun hmark _ => ReachesLine.refl hmark

theorem itemsRead_cons {item : Datum} (hitem : Reads item) {items : List Datum}
    (hitems : ItemsRead items) : ItemsRead (item :: items) := by
  intro tokens column outer mark rest hmark hfollows
  have hcolumn := Mark.column_ahead hmark column
  have henters : Enters .blockListStart column tokens column outer tokens outer := .stays rfl
  have hline := reachesLine_items hitem hitems hcolumn henters hfollows
  have hspaces := ReachesLine.of_spaces column hline
  simpa [itemLines, ready] using hspaces

theorem reads_list {item : Datum} (hitem : Reads item) {items : List Datum}
    (hitems : ItemsRead items) : Reads (.list (item :: items)) := by
  constructor
  · intro tokens column outer mark rest hmark hfollows
    have henters : Enters .blockListStart (column + 2) tokens column outer
        (.blockListStart :: tokens) (column :: outer) := .opens (by omega)
    have hline := reachesLine_items hitem hitems hmark henters (hfollows.mono (by omega))
    -- the block ends where the line after it is indented less
    have hclose := hline.close hfollows (by omega)
    simpa [lines, Place.block, valueTokens] using hclose
  · intro tokens column outer mark rest hmark hfollows
    -- a bare list stands at the column of its key, so no block opens
    have hlines : (outside tokens column outer none false mark
        ('\n' :: (itemLines column (item :: items) ++ rest))).ReachesLine
        ((itemTokens (item :: items)).reverse ++ tokens) column outer rest :=
      ReachesLine.of_lineEnd (follows_itemLines hfollows _)
        (itemsRead_cons hitem hitems rfl hfollows)
    simpa [lines, itemLines, Place.afterColon, valueTokens] using hlines

/-! ## Records -/

theorem lines_afterQuestion (column : Nat) (value : Datum) :
    lines (.afterQuestion column) value =
      spaces column ++ ':' :: ' ' :: lines (.block (column + 2)) value := by
  cases value with
  | null => simp [lines, Place.afterQuestion, Place.block]
  | natural value => simp [lines, Place.afterQuestion, Place.block]
  | text value => simp [lines, Place.afterQuestion, Place.block]
  | list items => cases items <;> simp [lines, Place.afterQuestion, Place.block]
  | record fields => cases fields <;> simp [lines, Place.afterQuestion, Place.block]

theorem follows_afterQuestion (column : Nat) (value : Datum) (rest : List Char) :
    Follows column (lines (.afterQuestion column) value ++ rest) := by
  rw [lines_afterQuestion, List.append_assoc]
  exact follows_sign (by decide) _

/-- After a key and its colon, a value begins with a blank or a new line. -/
theorem atGap_afterColon (column : Nat) (value : Datum) (rest : List Char) :
    atGap (lines (.afterColon column) value ++ rest) = true := by
  cases value with
  | null => simp [lines, Place.afterColon, atGap, isGap, isBlank]
  | natural value => simp [lines, Place.afterColon, atGap, isGap, isBlank]
  | text value => simp [lines, Place.afterColon, atGap, isGap, isBlank]
  | list items => cases items <;> simp [lines, Place.afterColon, atGap, isGap, isBlank, isBreak]
  | record fields =>
      cases fields <;> simp [lines, Place.afterColon, atGap, isGap, isBlank, isBreak]

/-- The value after a key that has a line of its own. -/
theorem reachesLine_afterQuestion {value : Datum} (hvalue : Reads value) {tokens : List Token}
    {column : Nat} {outer : List Int} {mark : Mark} (hmark : mark.column = 0) {rest : List Char}
    (hfollows : Follows column rest) :
    (ready tokens column outer mark (lines (.afterQuestion column) value ++ rest)).ReachesLine
      ((valueTokens false value).reverse ++ .value :: tokens) column outer rest := by
  have hsign : (':', .blockTableStart, .value) ∈ blockSigns := by decide
  have hcolumn := Mark.column_ahead hmark column
  have henters : Enters .blockTableStart (mark.ahead column).column tokens column outer tokens
      outer := .stays (by rw [hcolumn])
  have hstep := reaches_blockSign hsign henters (lines (.block (column + 2)) value ++ rest)
  rw [hcolumn] at hstep
  have hline := ReachesLine.of_reaches hstep (hvalue.block (by simp [Mark.ahead, hmark]) hfollows)
  rw [lines_afterQuestion, List.append_assoc]
  exact ReachesLine.of_spaces column hline

/-- A key with its value, in a record or at its start. -/
theorem reachesLine_field (name : String) {value : Datum} (hvalue : Reads value)
    {tokens tokens' : List Token} {indent : Int} {outer outer' : List Int} {column : Nat}
    {mark : Mark} (hmark : mark.column = column)
    (henters : Enters .blockTableStart column tokens indent outer tokens' outer')
    {rest : List Char} (hfollows : Follows column rest) :
    (ready tokens indent outer mark
      (keyText column name ++ lines (.afterKey column name) value ++ rest)).ReachesLine
      ((fieldTokens [(name, value)]).reverse ++ tokens') column outer' rest := by
  subst hmark
  cases hkey : isSimpleKey name with
  | true =>
      have hline := ReachesLine.of_reaches
        (reaches_simpleKey hkey (atGap_afterColon mark.column value rest) henters)
        (hvalue.afterColon (by simp only [Mark.ahead]; omega) hfollows)
      simpa [keyText, Place.afterKey, fieldTokens, hkey] using hline
  | false =>
      have hsign : ('?', .blockTableStart, .key) ∈ blockSigns := by decide
      -- the key has its line, and the colon stands on the next one
      have hname := ReachesLine.of_reaches (reaches_blockSign hsign henters _)
        (reachesLine_textLine (by simp only [Mark.ahead]; omega)
          (follows_afterQuestion mark.column value rest) name)
      have hline := hname.trans fun mark' hmark' =>
        reachesLine_afterQuestion hvalue hmark' hfollows
      simpa [keyText, Place.afterKey, fieldTokens, hkey] using hline

/-- The first field of a record, which may open its block, and the others. -/
theorem reachesLine_fields (name : String) {value : Datum} (hvalue : Reads value)
    {fields : List (String × Datum)} (hfields : FieldsRead fields)
    {tokens tokens' : List Token} {indent : Int} {outer outer' : List Int} {column : Nat}
    {mark : Mark} (hmark : mark.column = column)
    (henters : Enters .blockTableStart column tokens indent outer tokens' outer')
    {rest : List Char} (hfollows : Follows column rest) :
    (ready tokens indent outer mark (keyText column name ++ lines (.afterKey column name) value ++
      fieldLines column fields ++ rest)).ReachesLine
      ((fieldTokens ((name, value) :: fields)).reverse ++ tokens') column outer' rest := by
  have hfield := reachesLine_field name hvalue hmark henters (follows_fieldLines hfollows fields)
  have hline := hfield.trans fun mark' hmark' => hfields hmark' hfollows
  simpa [fieldTokens] using hline

theorem fieldsRead_nil : FieldsRead [] :=
  fun hmark _ => ReachesLine.refl hmark

theorem fieldsRead_cons (name : String) {value : Datum} (hvalue : Reads value)
    {fields : List (String × Datum)} (hfields : FieldsRead fields) :
    FieldsRead ((name, value) :: fields) := by
  intro tokens column outer mark rest hmark hfollows
  have hcolumn := Mark.column_ahead hmark column
  have henters : Enters .blockTableStart column tokens column outer tokens outer := .stays rfl
  have hline := reachesLine_fields name hvalue hfields hcolumn henters hfollows
  have hspaces := ReachesLine.of_spaces column hline
  simpa [fieldLines, ready] using hspaces

theorem reads_record (name : String) {value : Datum} (hvalue : Reads value)
    {fields : List (String × Datum)} (hfields : FieldsRead fields) :
    Reads (.record ((name, value) :: fields)) := by
  have hblock : ∀ {tokens : List Token} {column : Nat} {outer : List Int} {mark : Mark}
      {rest : List Char}, mark.column = column + 2 → Follows column rest →
      (ready tokens column outer mark (lines (.block (column + 2)) (.record ((name, value) ::
        fields)) ++ rest)).ReachesLine
        ((valueTokens false (.record ((name, value) :: fields))).reverse ++ tokens) column outer
          rest := by
    intro tokens column outer mark rest hmark hfollows
    have henters : Enters .blockTableStart (column + 2) tokens column outer
        (.blockTableStart :: tokens) (column :: outer) := .opens (by omega)
    have hline := reachesLine_fields name hvalue hfields hmark henters (hfollows.mono (by omega))
    have hclose := hline.close hfollows (by omega)
    simpa [lines, Place.block, valueTokens] using hclose
  refine ⟨hblock, ?_⟩
  intro tokens column outer mark rest hmark hfollows
  have hcolumn : ((mark.past '\n').ahead (column + 2)).column = column + 2 :=
    Mark.column_ahead rfl (column + 2)
  have hwritten : lines (.afterColon column) (.record ((name, value) :: fields)) ++ rest =
      '\n' :: (spaces (column + 2) ++
        (lines (.block (column + 2)) (.record ((name, value) :: fields)) ++ rest)) := by
    simp [lines, Place.afterColon, Place.block]
  -- the record begins on a line of its own, below its key
  have hnext : Follows (column + 2 : Nat) (spaces (column + 2) ++
      (lines (.block (column + 2)) (.record ((name, value) :: fields)) ++ rest)) := by
    obtain ⟨c, after, hkey, hsign⟩ := exists_sign_keyText (column + 2) name
    simp only [lines, Place.block, List.nil_append, hkey, List.cons_append]
    exact follows_sign hsign _
  rw [hwritten]
  exact ReachesLine.of_lineEnd hnext
    (ReachesLine.of_spaces (column + 2) (hblock hcolumn hfollows))

/-! ## All values -/

mutual

theorem reads_value : ∀ value : Datum, Reads value
  | .null => reads_null
  | .natural value => reads_natural value
  | .text value => reads_text value
  | .list [] => reads_emptyList
  | .list (item :: items) => reads_list (reads_value item) (itemsRead items)
  | .record [] => reads_emptyRecord
  | .record ((name, value) :: fields) =>
      reads_record name (reads_value value) (fieldsRead fields)

theorem itemsRead : ∀ items : List Datum, ItemsRead items
  | [] => itemsRead_nil
  | item :: items => itemsRead_cons (reads_value item) (itemsRead items)

theorem fieldsRead : ∀ fields : List (String × Datum), FieldsRead fields
  | [] => fieldsRead_nil
  | (name, value) :: fields => fieldsRead_cons name (reads_value value) (fieldsRead fields)

end

end Layout

end StorageSurvey.Yaml
