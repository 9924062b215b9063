import StorageSurvey.Proofs.Document.Decoding
import StorageSurvey.Proofs.Text.Trimming
import StorageSurvey.Proofs.Yaml.Tokens

/-!
# The way to the last text

Where a value ends with a text, its lines end with those of the text, and a run over them stands
before the text once everything else is read.  What is read until then does not depend on how the
text goes on, as long as a gap follows: so the run is the same over a text whose last lines were cut
off.

The lines before the text are found by following the last item or field of each list and record.
-/

namespace StorageSurvey.Yaml.Layout

open StorageSurvey.Document StorageSurvey.Text

/-! ## Standing before the last text -/

/-- Whether the runs of a layout lead to a place in a block at a column where only the text
`content` is missing of the tokens `read`, and the ends of blocks. -/
def StopsBefore (content : String) (column : Nat) (read : List Token) (layout : Layout)
    (rest : List Char) : Prop :=
  ∃ tokens outer keyAllowed mark closing,
    read = List.replicate closing .blockEnd ++ .scalar (styleOf content) content :: tokens ∧
      column < mark.column ∧
        layout.Reaches (outside tokens column outer none keyAllowed mark rest)

/-- Whether lines end with those of a text, and runs over the lines before lead to it.  `starts`
tells where the runs start and which tokens all the lines give; what may follow there satisfies
`begins`. -/
def LeadsTo (starts : (List Char → Layout) → List Token → Prop) (begins : List Char → Prop)
    (content : String) (written : List Char) : Prop :=
  ∃ before column, written = before ++ ' ' :: textLine (column + 2) content ∧ EndsSolid before ∧
    (∀ rest, atGap rest = true → begins (before ++ rest)) ∧
    ∀ start read, starts start read → ∀ rest, atGap rest = true →
      StopsBefore content column read (start (before ++ rest)) rest

/-- Lines that lead to a text, with others before them. -/
theorem LeadsTo.after {starts inner : (List Char → Layout) → List Token → Prop}
    {begins begins' : List Char → Prop} {content : String} {written : List Char}
    (h : LeadsTo inner begins content written) (lines : List Char)
    (hsolid : ∀ before, begins before → EndsSolid before → EndsSolid (lines ++ before))
    (hbegins : ∀ text, begins text → begins' (lines ++ text))
    (hstep : ∀ start read, starts start read → ∀ text, begins text →
      ∃ start' read' closing, inner start' read' ∧
        read = List.replicate closing .blockEnd ++ read' ∧
          (start (lines ++ text)).Reaches (start' text)) :
    LeadsTo starts begins' content (lines ++ written) := by
  obtain ⟨before, column, rfl, hends, hbefore, hruns⟩ := h
  -- nothing need follow: the end of the text is a gap too
  have hhere : begins before := by
    have := hbefore [] rfl
    rwa [List.append_nil] at this
  refine ⟨lines ++ before, column, ?_, hsolid before hhere hends, fun rest hrest => ?_, ?_⟩
  · rw [List.append_assoc]
  · rw [List.append_assoc]
    exact hbegins _ (hbefore rest hrest)
  · intro start read hstart rest hrest
    obtain ⟨start', read', closing, hinner, rfl, hreaches⟩ :=
      hstep start read hstart _ (hbefore rest hrest)
    obtain ⟨tokens, outer, keyAllowed, mark, closing', rfl, hcolumn, hlast⟩ :=
      hruns start' read' hinner rest hrest
    refine ⟨tokens, outer, keyAllowed, mark, closing + closing', ?_, hcolumn, ?_⟩
    · rw [← List.append_assoc, List.replicate_append_replicate]
    · rw [List.append_assoc]
      exact hreaches.trans hlast

/-! ## Where runs start -/

/-- At a sign in a block, which the sign may open. -/
inductive AtBlockSign (opening : Token) (column : Nat) (own : List Token) :
    (List Char → Layout) → List Token → Prop
  | mk {tokens tokens' : List Token} {indent : Int} {outer outer' : List Int} {mark : Mark}
      (hmark : mark.column = column)
      (henters : Enters opening column tokens indent outer tokens' outer') :
      AtBlockSign opening column own (ready tokens indent outer mark) (own.reverse ++ tokens')

/-- After the sign of an item, or after the colon below a key with a line of its own. -/
inductive AfterSign (column : Nat) (own : List Token) : (List Char → Layout) → List Token → Prop
  | mk {tokens : List Token} {outer : List Int} {mark : Mark} (hmark : mark.column = column + 1) :
      AfterSign column own (ready tokens column outer mark) (own.reverse ++ tokens)

/-- After the colon behind a key. -/
inductive AfterColon (column : Nat) (own : List Token) : (List Char → Layout) → List Token → Prop
  | mk {tokens : List Token} {outer : List Int} {mark : Mark} (hmark : column < mark.column) :
      AfterColon column own (outside tokens column outer none false mark) (own.reverse ++ tokens)

/-- Whether a text begins with the first character of a token. -/
def BeginsWithSign (text : List Char) : Prop :=
  ∃ c rest, text = c :: rest ∧ isSign c = true

/-- Whether a text has ended or begins with a gap. -/
def BeginsWithGap (text : List Char) : Prop :=
  atGap text = true

/-- Whether a value leads to the text that it ends with, after a sign and after a colon. -/
structure Leads (value : Datum) (content : String) : Prop where
  afterSign : ∀ column, LeadsTo (AfterSign column (valueTokens false value)) BeginsWithGap content
    (' ' :: lines (.block (column + 2)) value)
  afterColon : ∀ column, LeadsTo (AfterColon column (valueTokens true value)) BeginsWithGap content
    (lines (.afterColon column) value)

/-- Whether items lead to the text that the last of them ends with. -/
def ItemsLead (items : List Datum) (content : String) : Prop :=
  ∀ column, ∃ written, itemLines column items = spaces column ++ written ∧
    LeadsTo (AtBlockSign .blockListStart column (itemTokens items)) BeginsWithSign content written

/-- Whether fields lead to the text that the last of them ends with. -/
def FieldsLead (fields : List (String × Datum)) (content : String) : Prop :=
  ∀ column, ∃ written, fieldLines column fields = spaces column ++ written ∧
    LeadsTo (AtBlockSign .blockTableStart column (fieldTokens fields)) BeginsWithSign content
      written

theorem endsSolid_append_of_sign (lines : List Char) {before : List Char}
    (hsign : BeginsWithSign before) (hbefore : EndsSolid before) : EndsSolid (lines ++ before) := by
  obtain ⟨first, rest, rfl, -⟩ := hsign
  exact hbefore.append_of_ne_nil (List.cons_ne_nil first rest) lines

theorem follows_of_beginsWithSign {text : List Char} (h : BeginsWithSign text) (column : Nat) :
    Follows column (spaces column ++ text) := by
  obtain ⟨c, rest, rfl, hsign⟩ := h
  exact follows_sign hsign rest

/-! ## Lists and records behind a sign or a colon -/

/-- The lines of a list are those of its items, the first in the place of the list. -/
theorem lines_list {place : Place} {item : Datum} {items : List Datum} {written : List Char}
    (h : itemLines place.listColumn (item :: items) = spaces place.listColumn ++ written) :
    lines place (.list (item :: items)) = place.beforeList ++ written := by
  rw [itemLines, List.append_assoc, List.append_cancel_left_eq] at h
  rw [lines, List.append_assoc, h]

/-- The lines of a record are those of its fields, the first in the place of the record. -/
theorem lines_record {place : Place} {name : String} {value : Datum}
    {fields : List (String × Datum)} {written : List Char}
    (h : fieldLines place.recordColumn ((name, value) :: fields) =
      spaces place.recordColumn ++ written) :
    lines place (.record ((name, value) :: fields)) = place.beforeRecord ++ written := by
  rw [fieldLines, List.append_assoc, List.append_assoc, List.append_cancel_left_eq] at h
  rw [lines, List.append_assoc, List.append_assoc, h]

namespace LeadsTo

variable {opening : Token} {column : Nat} {own : List Token} {content : String}
  {written : List Char}

/-- A block on the line of a sign. -/
theorem afterSign
    (h : LeadsTo (AtBlockSign opening (column + 2) own) BeginsWithSign content written) :
    LeadsTo (AfterSign column (opening :: own ++ [.blockEnd])) BeginsWithGap content
      (' ' :: written) := by
  refine h.after [' '] (fun _ => endsSolid_append_of_sign [' ']) (fun _ _ => rfl) ?_
  intro start read hstart text htext
  cases hstart with
  | mk hmark =>
      refine ⟨_, _, 1, .mk ?_ (.opens ?_), ?_, reaches_spaces 1 text⟩
      · rw [Mark.ahead, hmark]
      · omega
      · simp

/-- A block on the line after a colon; it is a block of its own if it is indented. -/
theorem afterColon {n : Nat} {own' : List Token}
    (hown : n = column ∧ own' = own ∨ column < n ∧ own' = opening :: own ++ [.blockEnd])
    (h : LeadsTo (AtBlockSign opening n own) BeginsWithSign content written) :
    LeadsTo (AfterColon column own') BeginsWithGap content ('\n' :: spaces n ++ written) := by
  refine h.after ('\n' :: spaces n) (fun _ => endsSolid_append_of_sign _) (fun _ _ => rfl) ?_
  intro start read hstart text htext
  cases hstart with
  | @mk tokens outer mark hmark =>
      -- the pending key is given up with its line, and the indentation is skipped
      have hreaches : (outside tokens column outer none false mark
          ('\n' :: spaces n ++ text)).Reaches
          (ready tokens column outer ((mark.past '\n').ahead n) text) :=
        (Reaches.of_agrees (agrees_lineEnd (mayLapse_none mark)
          (follows_of_beginsWithSign htext n)) (Nat.le_succ _)).trans (reaches_spaces n text)
      have hmark' : ((mark.past '\n').ahead n).column = n := by
        simp [Mark.ahead, Mark.past, isBreak]
      rcases hown with ⟨rfl, rfl⟩ | ⟨hlt, rfl⟩
      · exact ⟨_, _, 0, .mk hmark' (.stays rfl), rfl, hreaches⟩
      · refine ⟨_, _, 1, .mk hmark' (.opens ?_), ?_, hreaches⟩
        · omega
        · simp

end LeadsTo

/-! ## Texts -/

theorem leads_text (content : String) : Leads (.text content) content := by
  constructor
  · intro column
    refine ⟨[], column, by rw [lines]; rfl, endsSolid_nil, fun rest hrest => hrest, ?_⟩
    intro start read hstart rest hrest
    cases hstart with
    | mk hmark =>
        refine ⟨_, _, true, _, 0, by rw [valueTokens]; rfl, ?_, Reaches.refl _⟩
        omega
  · intro column
    refine ⟨[], column, by rw [lines]; rfl, endsSolid_nil, fun rest hrest => hrest, ?_⟩
    intro start read hstart rest hrest
    cases hstart with
    | mk hmark =>
        exact ⟨_, _, false, _, 0, by rw [valueTokens]; rfl, hmark, Reaches.refl _⟩

/-! ## Lists -/

theorem itemsLead_last {item : Datum} {content : String} (h : Leads item content) :
    ItemsLead [item] content := by
  intro column
  have hsolid : EndsSolid ['-'] := endsSolid_concat rfl []
  refine ⟨['-'] ++ ' ' :: lines (.block (column + 2)) item, by simp [itemLines], ?_⟩
  refine (h.afterSign column).after ['-'] (fun _ _ => hsolid.append)
    (fun text _ => ⟨'-', text, rfl, by decide⟩) ?_
  intro start read hstart text htext
  cases hstart with
  | mk hmark henters =>
      subst hmark
      have hsign : ('-', .blockListStart, .item) ∈ blockSigns := by decide
      refine ⟨_, _, 0, .mk ?_, ?_, reaches_sign hsign htext henters⟩
      · rfl
      · simp [itemTokens]

theorem itemsLead_cons (item : Datum) {items : List Datum} {content : String}
    (h : ItemsLead items content) : ItemsLead (item :: items) content := by
  intro column
  obtain ⟨written, hwritten, hleads⟩ := h column
  let first := '-' :: ' ' :: lines (.block (column + 2)) item ++ spaces column
  refine ⟨first ++ written, by simp [first, itemLines, hwritten], ?_⟩
  refine hleads.after first (fun _ => endsSolid_append_of_sign first)
    (fun text _ => ⟨'-', _, rfl, by decide⟩) ?_
  intro start read hstart text htext
  cases hstart with
  | @mk tokens tokens' indent outer outer' mark hmark henters =>
      subst hmark
      have hsign : ('-', .blockListStart, .item) ∈ blockSigns := by decide
      -- the item is read to its end, and the next one stands at the column of its list
      have hitem : (ready tokens indent outer mark (first ++ text)).ReachesLine
          ((valueTokens false item).reverse ++ .item :: tokens') mark.column outer'
          (spaces mark.column ++ text) := by
        have hline := ReachesLine.of_reaches (reaches_blockSign hsign henters _)
          ((reads_value item).block rfl (follows_of_beginsWithSign htext mark.column))
        simpa [first] using hline
      obtain ⟨mark', hmark', hreaches⟩ := hitem.exists_reaches_sign
      refine ⟨_, _, 0, .mk hmark' (.stays rfl), ?_, hreaches⟩
      simp [itemTokens]

theorem leads_list {items : List Datum} (hne : items ≠ []) {content : String}
    (h : ItemsLead items content) : Leads (.list items) content := by
  obtain ⟨item, others, rfl⟩ := List.exists_cons_of_ne_nil hne
  constructor
  · intro column
    obtain ⟨written, hwritten, hleads⟩ := h (column + 2)
    have hlines : lines (.block (column + 2)) (.list (item :: others)) = written :=
      lines_list hwritten
    rw [hlines]
    exact hleads.afterSign
  · intro column
    obtain ⟨written, hwritten, hleads⟩ := h column
    have hlines : lines (.afterColon column) (.list (item :: others)) =
        '\n' :: spaces column ++ written := lines_list hwritten
    rw [hlines]
    -- a bare list stands at the column of its key, and has no tokens of its own
    exact hleads.afterColon (Or.inl ⟨rfl, rfl⟩)

/-! ## Records -/

theorem beginsWithSign_keyText (column : Nat) (name : String) (text : List Char) :
    BeginsWithSign (keyText column name ++ text) := by
  obtain ⟨c, rest, hkey, hsign⟩ := exists_sign_keyText column name
  exact ⟨c, rest ++ text, by rw [hkey]; rfl, hsign⟩

/-- After a key on the line of its colon. -/
theorem leadsTo_simpleKey {name : String} (hkey : isSimpleKey name = true) {value : Datum}
    {content : String} (h : Leads value content) (column : Nat) :
    LeadsTo (AtBlockSign .blockTableStart column (fieldTokens [(name, value)])) BeginsWithSign
      content (keyText column name ++ lines (.afterKey column name) value) := by
  have hwritten : keyText column name = simpleKey name ++ [':'] := by simp [keyText, hkey]
  have hplace : Place.afterKey column name = .afterColon column := by simp [Place.afterKey, hkey]
  rw [hplace]
  refine (h.afterColon column).after (keyText column name)
    (fun _ _ => EndsSolid.append ?_)
    (fun text _ => beginsWithSign_keyText column name text) ?_
  · rw [hwritten]
    exact endsSolid_concat rfl _
  · intro start read hstart text htext
    cases hstart with
    | @mk tokens tokens' indent outer outer' mark hmark henters =>
        subst hmark
        have hreaches := reaches_simpleKey hkey htext henters
        rw [hwritten, List.append_assoc, List.singleton_append]
        refine ⟨_, _, 0, .mk ?_, ?_, hreaches⟩
        · simp only [Mark.ahead]
          omega
        · simp [fieldTokens, hkey]

/-- After a key with a line of its own. -/
theorem leadsTo_questionKey {name : String} (hkey : isSimpleKey name = false) {value : Datum}
    {content : String} (h : Leads value content) (column : Nat) :
    LeadsTo (AtBlockSign .blockTableStart column (fieldTokens [(name, value)])) BeginsWithSign
      content (keyText column name ++ lines (.afterKey column name) value) := by
  let before := '?' :: ' ' :: textLine (column + 2) name ++ spaces column ++ [':']
  have hwritten : keyText column name ++ lines (.afterKey column name) value =
      before ++ ' ' :: lines (.block (column + 2)) value := by
    simp [before, keyText, hkey, Place.afterKey, lines_afterQuestion]
  rw [hwritten]
  refine (h.afterSign column).after before (fun _ _ => EndsSolid.append
    (endsSolid_concat rfl _)) (fun text _ => ⟨'?', _, rfl, by decide⟩) ?_
  intro start read hstart text htext
  cases hstart with
  | @mk tokens tokens' indent outer outer' mark hmark henters =>
      subst hmark
      have hsign : ('?', .blockTableStart, .key) ∈ blockSigns := by decide
      have hcolon : (':', .blockTableStart, .value) ∈ blockSigns := by decide
      -- the key is read to the end of its line, and then the colon below it
      have hname : (ready tokens indent outer mark (before ++ text)).ReachesLine
          (.scalar (styleOf name) name :: .key :: tokens') mark.column outer'
          (spaces mark.column ++ ':' :: text) := by
        have hline := ReachesLine.of_reaches (reaches_blockSign hsign henters _)
          (reachesLine_textLine (by simp only [Mark.ahead]; omega)
            (follows_sign (show isSign ':' = true by decide) text) name)
        simpa [before] using hline
      obtain ⟨mark', hmark', hreaches⟩ := hname.exists_reaches_sign
      have hvalue : (ready (.scalar (styleOf name) name :: .key :: tokens') mark.column outer'
          mark' (':' :: text)).Reaches
          (ready (.value :: .scalar (styleOf name) name :: .key :: tokens') mark'.column outer'
            (mark'.ahead 1) text) :=
        reaches_sign hcolon htext (.stays (by rw [hmark']))
      rw [hmark'] at hvalue
      refine ⟨_, _, 0, .mk ?_, ?_, hreaches.trans hvalue⟩
      · rw [Mark.ahead, hmark']
      · simp [fieldTokens, hkey]

theorem fieldsLead_last (name : String) {value : Datum} {content : String}
    (h : Leads value content) : FieldsLead [(name, value)] content := by
  intro column
  refine ⟨keyText column name ++ lines (.afterKey column name) value, by simp [fieldLines], ?_⟩
  cases hkey : isSimpleKey name with
  | true => exact leadsTo_simpleKey hkey h column
  | false => exact leadsTo_questionKey hkey h column

theorem fieldsLead_cons (name : String) (value : Datum) {fields : List (String × Datum)}
    {content : String} (h : FieldsLead fields content) :
    FieldsLead ((name, value) :: fields) content := by
  intro column
  obtain ⟨written, hwritten, hleads⟩ := h column
  let first := keyText column name ++ lines (.afterKey column name) value ++ spaces column
  refine ⟨first ++ written, by simp [first, fieldLines, hwritten], ?_⟩
  refine hleads.after first (fun _ => endsSolid_append_of_sign first) (fun text _ => ?_) ?_
  · rw [List.append_assoc, List.append_assoc]
    exact beginsWithSign_keyText column name _
  · intro start read hstart text htext
    cases hstart with
    | @mk tokens tokens' indent outer outer' mark hmark henters =>
        subst hmark
        -- the field is read to its end, and the next one stands at the column of its record
        have hfield : (ready tokens indent outer mark (first ++ text)).ReachesLine
            ((fieldTokens [(name, value)]).reverse ++ tokens') mark.column outer'
            (spaces mark.column ++ text) := by
          have hline := reachesLine_field name (reads_value value) rfl henters
            (follows_of_beginsWithSign htext mark.column)
          simpa [first] using hline
        obtain ⟨mark', hmark', hreaches⟩ := hfield.exists_reaches_sign
        refine ⟨_, _, 0, .mk hmark' (.stays rfl), ?_, hreaches⟩
        simp [fieldTokens]

theorem leads_record {fields : List (String × Datum)} (hne : fields ≠ []) {content : String}
    (h : FieldsLead fields content) : Leads (.record fields) content := by
  obtain ⟨⟨name, value⟩, others, rfl⟩ := List.exists_cons_of_ne_nil hne
  constructor
  · intro column
    obtain ⟨written, hwritten, hleads⟩ := h (column + 2)
    have hlines : lines (.block (column + 2)) (.record ((name, value) :: others)) = written :=
      lines_record hwritten
    rw [hlines]
    exact hleads.afterSign
  · intro column
    obtain ⟨written, hwritten, hleads⟩ := h (column + 2)
    have hlines : lines (.afterColon column) (.record ((name, value) :: others)) =
        '\n' :: spaces (column + 2) ++ written := lines_record hwritten
    rw [hlines]
    exact hleads.afterColon (Or.inr ⟨by omega, rfl⟩)

/-! ## All values -/

mutual

theorem leads {content : String} :
    ∀ value : Datum, value.value.lastText? = some content → Leads value content
  | .null, h => by cases h
  | .natural _, h => by cases h
  | .text _, h => by
      cases h
      exact leads_text content
  | .list [], h => by cases h
  | .list (item :: items), h =>
      leads_list (List.cons_ne_nil item items) (itemsLead (item :: items) h)
  | .record [], h => by cases h
  | .record (field :: fields), h =>
      leads_record (List.cons_ne_nil field fields) (fieldsLead (field :: fields) h)

theorem itemsLead {content : String} : ∀ items : List Datum,
    Value.lastItemText? (Datum.values items) = some content → ItemsLead items content
  | [], h => by cases h
  | [item], h => itemsLead_last (leads item h)
  | item :: next :: items, h => itemsLead_cons item (itemsLead (next :: items) h)

theorem fieldsLead {content : String} : ∀ fields : List (String × Datum),
    Value.lastEntryText? (Datum.fieldValues fields) = some content → FieldsLead fields content
  | [], h => by cases h
  | [(name, value)], h => fieldsLead_last name (leads value h)
  | (name, value) :: field :: fields, h =>
      fieldsLead_cons name value (fieldsLead (field :: fields) h)

end

/-! ## Documents -/

theorem StopsBefore.closed {content : String} {column : Nat} {read : List Token} {layout : Layout}
    {rest : List Char} (h : StopsBefore content column read layout rest) :
    StopsBefore content column (.blockEnd :: read) layout rest := by
  obtain ⟨tokens, outer, keyAllowed, mark, closing, rfl, hcolumn, hreaches⟩ := h
  exact ⟨tokens, outer, keyAllowed, mark, closing + 1, rfl, hcolumn, hreaches⟩

/-- Whether the lines of a document lead to its last text. -/
def DocumentLeads (value : Datum) (content : String) : Prop :=
  ∃ before column, document value = before ++ ' ' :: textLine (column + 2) content ∧
    EndsSolid before ∧ ∀ rest, atGap rest = true →
      StopsBefore content column (valueTokens false value).reverse (.start (before ++ rest)) rest

/-- The block of the root is opened by its first sign. -/
theorem documentLeads_of_leadsTo {value : Datum} {content : String} {opening : Token}
    {own : List Token}
    (h : LeadsTo (AtBlockSign opening 0 own) BeginsWithSign content (document value))
    (htokens : valueTokens false value = opening :: own ++ [.blockEnd]) :
    DocumentLeads value content := by
  obtain ⟨before, column, hwritten, hsolid, -, hruns⟩ := h
  refine ⟨before, column, hwritten, hsolid, fun rest hrest => ?_⟩
  have hstart : AtBlockSign opening 0 own (ready [] (-1) [] ⟨0, 0⟩) (own.reverse ++ [opening]) :=
    .mk rfl (.opens (by decide))
  have hread : (valueTokens false value).reverse = .blockEnd :: (own.reverse ++ [opening]) := by
    simp [htokens]
  rw [hread]
  exact (hruns _ _ hstart rest hrest).closed

theorem documentLeads {value : Datum} (hcollection : value.isCollection = true) {content : String}
    (h : value.value.lastText? = some content) : DocumentLeads value content := by
  match value with
  | .list (item :: items) =>
      obtain ⟨written, hwritten, hleads⟩ := itemsLead (item :: items) h 0
      have hdocument : document (.list (item :: items)) = written :=
        @lines_list (.block 0) _ _ _ hwritten
      rw [← hdocument] at hleads
      exact documentLeads_of_leadsTo hleads (by simp [valueTokens])
  | .record ((name, value) :: fields) =>
      obtain ⟨written, hwritten, hleads⟩ := fieldsLead ((name, value) :: fields) h 0
      have hdocument : document (.record ((name, value) :: fields)) = written :=
        @lines_record (.block 0) _ _ _ _ hwritten
      rw [← hdocument] at hleads
      exact documentLeads_of_leadsTo hleads (by simp [valueTokens])
  | .list [] | .record [] => cases h
  | .null | .natural _ | .text _ => cases hcollection

/-! ## Values that end with no text -/

/-- Whether a text ends with a line that does not end with white space. -/
def EndsLineSolid (text : List Char) : Prop :=
  ∃ before c, text = before ++ [c, '\n'] ∧ Text.isBlank c = false

theorem EndsLineSolid.append {text : List Char} (h : EndsLineSolid text) (before : List Char) :
    EndsLineSolid (before ++ text) := by
  obtain ⟨others, c, rfl, hc⟩ := h
  exact ⟨before ++ others, c, (List.append_assoc _ _ _).symm, hc⟩

mutual

theorem endsLineSolid_lines (place : Place) :
    ∀ value : Datum, value.value.lastText? = none → EndsLineSolid (lines place value)
  | .null, _ => by
      rw [lines]
      exact ⟨place.beforeScalar ++ ['n', 'u', 'l'], 'l', by simp, rfl⟩
  | .natural n, _ => by
      have hdigits : Nat.toDigits 10 n ≠ [] := Nat.toDigits_ne_nil
      have hlast := Text.isBlank_of_isDigit
        (Number.isDigit_of_mem_toDigits (List.getLast_mem hdigits))
      refine ⟨place.beforeScalar ++ (Nat.toDigits 10 n).dropLast, _, ?_, hlast⟩
      rw [lines, List.append_assoc, List.append_assoc]
      conv => lhs; rw [← List.dropLast_concat_getLast hdigits]
      simp
  | .text _, h => by cases h
  | .list [], _ => by
      rw [lines]
      exact ⟨place.beforeScalar ++ ['['], ']', by simp, rfl⟩
  | .list (item :: items), h => by
      obtain ⟨written, hwritten, hends⟩ :=
        endsLineSolid_itemLines place.listColumn (item :: items) (List.cons_ne_nil _ _) h
      rw [lines_list hwritten]
      exact hends.append _
  | .record [], _ => by
      rw [lines]
      exact ⟨place.beforeScalar ++ ['\x7b'], '\x7d', by simp, rfl⟩
  | .record ((name, value) :: fields), h => by
      obtain ⟨written, hwritten, hends⟩ :=
        endsLineSolid_fieldLines place.recordColumn ((name, value) :: fields)
          (List.cons_ne_nil _ _) h
      rw [lines_record hwritten]
      exact hends.append _

theorem endsLineSolid_itemLines (column : Nat) : ∀ items : List Datum, items ≠ [] →
    Value.lastItemText? (Datum.values items) = none →
    ∃ written, itemLines column items = spaces column ++ written ∧ EndsLineSolid written
  | [], hne, _ => absurd rfl hne
  | [item], _, h => by
      refine ⟨'-' :: ' ' :: lines (.block (column + 2)) item, by simp [itemLines], ?_⟩
      exact (endsLineSolid_lines _ item h).append ['-', ' ']
  | item :: next :: items, _, h => by
      obtain ⟨written, hwritten, hends⟩ :=
        endsLineSolid_itemLines column (next :: items) (List.cons_ne_nil _ _) h
      rw [itemLines, List.append_assoc, hwritten, ← List.append_assoc _ (spaces column)]
      exact ⟨_, rfl, hends.append _⟩

theorem endsLineSolid_fieldLines (column : Nat) :
    ∀ fields : List (String × Datum), fields ≠ [] →
    Value.lastEntryText? (Datum.fieldValues fields) = none →
    ∃ written, fieldLines column fields = spaces column ++ written ∧ EndsLineSolid written
  | [], hne, _ => absurd rfl hne
  | [(name, value)], _, h => by
      refine ⟨keyText column name ++ lines (.afterKey column name) value, by simp [fieldLines], ?_⟩
      exact (endsLineSolid_lines _ value h).append _
  | (name, value) :: field :: fields, _, h => by
      obtain ⟨written, hwritten, hends⟩ :=
        endsLineSolid_fieldLines column (field :: fields) (List.cons_ne_nil _ _) h
      rw [fieldLines, List.append_assoc, List.append_assoc, hwritten,
        ← List.append_assoc _ (spaces column), ← List.append_assoc (keyText column name)]
      exact ⟨_, rfl, hends.append _⟩

end

end StorageSurvey.Yaml.Layout
