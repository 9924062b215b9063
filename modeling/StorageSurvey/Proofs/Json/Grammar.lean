import StorageSurvey.Json.Tree
import StorageSurvey.Proofs.Json.Tokens

/-!
# The grammar of JSON

`Spells` says which texts write a value: blanks may stand around values and names, and each scalar
may be written in any way.  The machine makes the tree of a value of every text that writes it.  It
takes a value wherever a value may stand, and gives its tree to the list or table that it belongs
to; items and entries are added to theirs one after the other.
-/

namespace StorageSurvey.Json

open StorageSurvey.Document

/-- A value as it is written, numbers with all their digits. -/
inductive Literal where
  | null
  | boolean (value : Bool)
  | number (literal : NumberLiteral)
  | text (content : String)
  | list (items : List Literal)
  | table (entries : List (String × Literal))

/-! ## Values -/

def Blank (text : List Char) : Prop :=
  ∀ c ∈ text, isSpace c = true

theorem blank_nil : Blank [] :=
  List.forall_mem_nil _

theorem blank_space : Blank [' '] := by
  intro c hc
  rw [List.mem_singleton.mp hc]
  rfl

/-- The ways to write a name, with blanks around it. -/
inductive SpellsName : String → List Char → Prop
  | mk {content before written after : List Char} (hbefore : Blank before)
      (hname : SpellsText content written) (hafter : Blank after) :
      SpellsName (String.ofList content) (before ++ '"' :: written ++ '"' :: after)

mutual

/-- The ways to write a value, with blanks around it. -/
inductive Spells : Literal → List Char → Prop
  | mk {value : Literal} {before text after : List Char} (hbefore : Blank before)
      (hvalue : SpellsBare value text) (hafter : Blank after) :
      Spells value (before ++ text ++ after)

/-- The ways to write a value from its first character to its last. -/
inductive SpellsBare : Literal → List Char → Prop
  | null : SpellsBare .null ['n', 'u', 'l', 'l']
  | true : SpellsBare (.boolean true) ['t', 'r', 'u', 'e']
  | false : SpellsBare (.boolean false) ['f', 'a', 'l', 's', 'e']
  | number {literal : NumberLiteral} {text : List Char} (hnumber : SpellsNumber literal text) :
      SpellsBare (.number literal) text
  | text {content written : List Char} (htext : SpellsText content written) :
      SpellsBare (.text (String.ofList content)) ('"' :: written ++ ['"'])
  | emptyList {blank : List Char} (hblank : Blank blank) :
      SpellsBare (.list []) ('[' :: blank ++ [']'])
  | list {items : List Literal} {text : List Char} (hitems : SpellsItems items text) :
      SpellsBare (.list items) ('[' :: text ++ [']'])
  | emptyTable {blank : List Char} (hblank : Blank blank) :
      SpellsBare (.table []) ('\x7b' :: blank ++ ['\x7d'])
  | table {entries : List (String × Literal)} {text : List Char}
      (hentries : SpellsEntries entries text) :
      SpellsBare (.table entries) ('\x7b' :: text ++ ['\x7d'])

/-- The ways to write the items of a list, with commas between them. -/
inductive SpellsItems : List Literal → List Char → Prop
  | last {item : Literal} {text : List Char} (hitem : Spells item text) : SpellsItems [item] text
  | cons {item : Literal} {items : List Literal} {text texts : List Char}
      (hitem : Spells item text) (hitems : SpellsItems items texts) :
      SpellsItems (item :: items) (text ++ ',' :: texts)

/-- The ways to write the entries of a table, with commas between them. -/
inductive SpellsEntries : List (String × Literal) → List Char → Prop
  | last {name : String} {value : Literal} {lead text : List Char} (hname : SpellsName name lead)
      (hvalue : Spells value text) : SpellsEntries [(name, value)] (lead ++ ':' :: text)
  | cons {name : String} {value : Literal} {entries : List (String × Literal)}
      {lead text texts : List Char} (hname : SpellsName name lead) (hvalue : Spells value text)
      (hentries : SpellsEntries entries texts) :
      SpellsEntries ((name, value) :: entries) (lead ++ ':' :: text ++ ',' :: texts)

end

theorem Spells.of_bare {value : Literal} {text : List Char} (h : SpellsBare value text) :
    Spells value text := by
  simpa using Spells.mk blank_nil h blank_nil

/-! ## The tree of a value -/

mutual

def Literal.tree : Literal → Tree
  | .null => .scalar .null
  | .boolean value => .scalar (.boolean value)
  | .number literal => .scalar (.number literal)
  | .text content => .scalar (.text (some content))
  | .list items => .list (itemTrees items) true
  | .table entries => .table (entryTrees entries) true

def itemTrees : List Literal → List Tree
  | [] => []
  | item :: items => item.tree :: itemTrees items

def entryTrees : List (String × Literal) → List (Tree × Tree)
  | [] => []
  | (name, value) :: entries => (.scalar (.text (some name)), value.tree) :: entryTrees entries

end

/-! ## From text to tree -/

/-- Goes on with a text. -/
def feedText (progress : Progress) (text : List Char) : Progress :=
  (tokens text).foldl Progress.feed progress

theorem feedText_blank (progress : Progress) {blank : List Char} (h : Blank blank)
    (rest : List Char) : feedText progress (blank ++ rest) = feedText progress rest := by
  induction blank with
  | nil => rfl
  | cons c blank ih =>
      have hspace : isSpace c = true := h c List.mem_cons_self
      rw [feedText, List.cons_append, tokens_cons_of_space hspace]
      exact ih fun other hother => h other (List.mem_cons_of_mem _ hother)

theorem EndsNumber.blank_append {blank rest : List Char} (h : Blank blank)
    (hrest : EndsNumber rest) : EndsNumber (blank ++ rest) := by
  cases blank with
  | nil => exact hrest
  | cons c blank =>
      intro c' hc'
      cases hc'
      have hspace : isSpace c = true := h c List.mem_cons_self
      simp only [isSpace, Bool.or_eq_true, beq_iff_eq] at hspace
      rcases hspace with ((rfl | rfl) | rfl) | rfl <;> decide

namespace Progress

/-- Where a value may stand. -/
def AllowsValue (expecting : Expecting) : Prop :=
  expecting = .value ∨ expecting = .firstItem

theorem feed_openList {expecting : Expecting} (h : AllowsValue expecting) (frames : List Frame) :
    feed (.reading frames expecting) .openList = .reading (.list [] :: frames) .firstItem := by
  rcases h with rfl | rfl <;> rfl

theorem feed_openTable {expecting : Expecting} (h : AllowsValue expecting) (frames : List Frame) :
    feed (.reading frames expecting) .openTable =
      .reading (.table [] none :: frames) .firstKey := by
  rcases h with rfl | rfl <;> rfl

theorem feed_scalar {expecting : Expecting} (h : AllowsValue expecting) (frames : List Frame)
    (scalar : Scalar) :
    feed (.reading frames expecting) (.scalar scalar) = deliver (.scalar scalar) frames := by
  rcases h with rfl | rfl <;> rfl

/-- Where a key may stand. -/
def AllowsKey (expecting : Expecting) : Prop :=
  expecting = .key ∨ expecting = .firstKey

theorem feed_text_of_key {expecting : Expecting} (h : AllowsKey expecting)
    (done : List (Tree × Tree)) (frames : List Frame) (name : String) :
    feed (.reading (.table done none :: frames) expecting) (.scalar (.text (some name))) =
      .reading (.table done (some (.scalar (.text (some name)))) :: frames) .colon := by
  rcases h with rfl | rfl <;> rfl

/-- A name and the colon after it are kept as a key until its value comes. -/
theorem feedText_name {name : String} {lead : List Char} (h : SpellsName name lead)
    {expecting : Expecting} (hexpecting : AllowsKey expecting) (done : List (Tree × Tree))
    (frames : List Frame) (rest : List Char) :
    feedText (.reading (.table done none :: frames) expecting) (lead ++ ':' :: rest) =
      feedText (.reading (.table done (some (.scalar (.text (some name)))) :: frames) .value)
        rest := by
  obtain ⟨hbefore, hname, hafter⟩ := h
  simp only [List.cons_append, List.append_assoc]
  rw [feedText_blank _ hbefore, feedText, tokens_of_spellsText hname, List.foldl_cons,
    feed_text_of_key hexpecting, ← feedText, feedText_blank _ hafter, feedText,
    tokens_cons_of_sign rfl]
  rfl

theorem feedText_openList {expecting : Expecting} (h : AllowsValue expecting)
    (frames : List Frame) (rest : List Char) :
    feedText (.reading frames expecting) ('[' :: rest) =
      feedText (.reading (.list [] :: frames) .firstItem) rest := by
  rw [feedText, tokens_cons_of_sign rfl, List.foldl_cons, nextToken, feed_openList h, feedText]

theorem feedText_openTable {expecting : Expecting} (h : AllowsValue expecting)
    (frames : List Frame) (rest : List Char) :
    feedText (.reading frames expecting) ('\x7b' :: rest) =
      feedText (.reading (.table [] none :: frames) .firstKey) rest := by
  rw [feedText, tokens_cons_of_sign rfl, List.foldl_cons, nextToken, feed_openTable h, feedText]

theorem feedText_comma_list (done : List Tree) (frames : List Frame) (rest : List Char) :
    feedText (.reading (.list done :: frames) .separator) (',' :: rest) =
      feedText (.reading (.list done :: frames) .value) rest := by
  rw [feedText, tokens_cons_of_sign rfl]
  rfl

theorem feedText_comma_table (done : List (Tree × Tree)) (frames : List Frame)
    (rest : List Char) :
    feedText (.reading (.table done none :: frames) .separator) (',' :: rest) =
      feedText (.reading (.table done none :: frames) .key) rest := by
  rw [feedText, tokens_cons_of_sign rfl]
  rfl

mutual

/-- Where a value may stand, its text gives its tree to the list or table it belongs to. -/
theorem feedText_value {value : Literal} {text : List Char} (h : Spells value text)
    {expecting : Expecting} (hexpecting : AllowsValue expecting) (frames : List Frame)
    {rest : List Char} (hrest : EndsNumber rest) :
    feedText (.reading frames expecting) (text ++ rest) =
      feedText (deliver value.tree frames) rest := by
  match h with
  | .mk hbefore hvalue hafter =>
      rw [List.append_assoc, List.append_assoc, feedText_blank _ hbefore,
        feedText_bare hvalue hexpecting frames (hrest.blank_append hafter),
        feedText_blank _ hafter]

theorem feedText_bare {value : Literal} {text : List Char} (h : SpellsBare value text)
    {expecting : Expecting} (hexpecting : AllowsValue expecting) (frames : List Frame)
    {rest : List Char} (hrest : EndsNumber rest) :
    feedText (.reading frames expecting) (text ++ rest) =
      feedText (deliver value.tree frames) rest := by
  match h with
  | .null | .true | .false =>
      simp only [List.cons_append, List.nil_append]
      rw [feedText, tokens_of_scalar? rfl, List.foldl_cons, feed_scalar hexpecting]
      rfl
  | .number hnumber =>
      rw [feedText, tokens_of_spellsNumber hnumber hrest, List.foldl_cons, feed_scalar hexpecting]
      rfl
  | .text htext =>
      simp only [List.cons_append, List.append_assoc, List.nil_append]
      rw [feedText, tokens_of_spellsText htext, List.foldl_cons, feed_scalar hexpecting]
      rfl
  | .emptyList hblank =>
      simp only [List.cons_append, List.append_assoc, List.nil_append]
      rw [feedText_openList hexpecting, feedText_blank _ hblank, feedText, tokens_cons_of_sign rfl]
      rfl
  | .list hitems =>
      simp only [List.cons_append, List.append_assoc, List.nil_append]
      rw [feedText_openList hexpecting, feedText_items hitems (.inr rfl), feedText,
        tokens_cons_of_sign rfl, List.append_nil]
      simp only [nextToken, List.foldl_cons, feed, closeList, List.reverse_reverse]
      rfl
  | .emptyTable hblank =>
      simp only [List.cons_append, List.append_assoc, List.nil_append]
      rw [feedText_openTable hexpecting, feedText_blank _ hblank, feedText,
        tokens_cons_of_sign rfl]
      rfl
  | .table hentries =>
      simp only [List.cons_append, List.append_assoc, List.nil_append]
      rw [feedText_openTable hexpecting, feedText_entries hentries (.inr rfl), feedText,
        tokens_cons_of_sign rfl, List.append_nil]
      simp only [nextToken, List.foldl_cons, feed, closeTable, List.reverse_reverse]
      rfl

/-- The text of items adds their trees to the list. -/
theorem feedText_items {items : List Literal} {text : List Char} (h : SpellsItems items text)
    {expecting : Expecting} (hexpecting : AllowsValue expecting) (done : List Tree)
    (frames : List Frame) (rest : List Char) :
    feedText (.reading (.list done :: frames) expecting) (text ++ ']' :: rest) =
      feedText (.reading (.list ((itemTrees items).reverse ++ done) :: frames) .separator)
        (']' :: rest) := by
  match h with
  | .last hitem => exact feedText_value hitem hexpecting _ (endsNumber_sign rfl _)
  | .cons hitem hitems =>
      simp only [List.cons_append, List.append_assoc]
      rw [feedText_value hitem hexpecting _ (endsNumber_sign rfl _), deliver,
        feedText_comma_list, feedText_items hitems (.inl rfl)]
      simp only [itemTrees, List.reverse_cons, List.append_assoc, List.cons_append,
        List.nil_append]

/-- The text of entries adds them to the table. -/
theorem feedText_entries {entries : List (String × Literal)} {text : List Char}
    (h : SpellsEntries entries text) {expecting : Expecting} (hexpecting : AllowsKey expecting)
    (done : List (Tree × Tree)) (frames : List Frame) (rest : List Char) :
    feedText (.reading (.table done none :: frames) expecting) (text ++ '\x7d' :: rest) =
      feedText
        (.reading (.table ((entryTrees entries).reverse ++ done) none :: frames) .separator)
        ('\x7d' :: rest) := by
  match h with
  | .last hname hvalue =>
      rw [List.append_assoc, List.cons_append, feedText_name hname hexpecting]
      exact feedText_value hvalue (.inl rfl) _ (endsNumber_sign rfl _)
  | .cons hname hvalue hentries =>
      simp only [List.cons_append, List.append_assoc]
      rw [feedText_name hname hexpecting,
        feedText_value hvalue (.inl rfl) _ (endsNumber_sign rfl _), deliver, feedText_comma_table,
        feedText_entries hentries (.inl rfl)]
      simp only [entryTrees, List.reverse_cons, List.append_assoc, List.cons_append,
        List.nil_append]

end

end Progress

/-- A text that writes a value is read as the tree of the value. -/
theorem ofText_of_spells {value : Literal} {text : List Char} (h : Spells value text) :
    Document.ofText (String.ofList text) = ⟨value.tree, true⟩ := by
  have hend : EndsNumber [] := nofun
  have hfeed := Progress.feedText_value h (.inl rfl) [] hend
  rw [List.append_nil, feedText, feedText, tokens_nil, List.foldl_nil] at hfeed
  rw [Document.ofText, String.toList_ofList, Progress.start, hfeed]
  rfl

end StorageSurvey.Json
