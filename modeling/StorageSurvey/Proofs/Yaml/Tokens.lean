import StorageSurvey.Proofs.Document.Written
import StorageSurvey.Proofs.Yaml.Lines

/-!
# The tokens of a document

A list or record is a document of its own.  All of it is printable, so it is read as it is written,
and at its end the block of the list or record ends too.
-/

namespace StorageSurvey.Yaml

open StorageSurvey.Document

/-! ## Printable texts -/

theorem isPrintable_textLine (indent : Nat) (text : String) :
    ∀ c ∈ textLine indent text, isPrintable c = true := by
  have hend : ∀ {written : List Char}, (∀ c ∈ written, isPrintable c = true) →
      ∀ c ∈ written ++ ['\n'], isPrintable c = true := by
    intro written hwritten c hc
    rw [List.mem_append, List.mem_singleton] at hc
    rcases hc with hc | rfl
    · exact hwritten c hc
    · rfl
  rw [textLine]
  cases hstyle : styleOf text with
  | plain =>
      obtain ⟨hinline, -⟩ := allowsPlain_iff.mp (of_styleOf_eq_plain hstyle).2.1
      exact hend fun c hc => isPrintable_of_isInline (hinline c hc)
  | singleQuoted =>
      have hallows := (of_styleOf_eq_singleQuoted hstyle).1
      simp only [allowsSingleQuotes, Bool.and_eq_true, List.all_eq_true] at hallows
      refine hend fun c hc => ?_
      simp only [singleQuoted, List.cons_append, List.mem_cons, List.mem_append,
        List.not_mem_nil, or_false] at hc
      rcases hc with rfl | hc | rfl
      · rfl
      · exact isPrintable_singleQuotedBody indent hallows.1.1 c hc
      · rfl
  | doubleQuoted => exact hend fun c hc => isPrintable_of_isInline (isInline_doubleQuoted _ c hc)
  | literal =>
      intro c hc
      rw [styledLine, literal_eq, List.mem_append, literalHeader, List.mem_append,
        List.mem_singleton] at hc
      rcases hc with (hc | rfl) | hc
      · exact isPrintable_of_isInline (isInline_hints text.toList c hc)
      · rfl
      · exact isPrintable_literalBody indent (of_styleOf_eq_literal hstyle).1 c hc
  | folded => exact absurd hstyle (styleOf_ne_folded text)

theorem isPrintable_keyText (column : Nat) (name : String) :
    ∀ c ∈ keyText column name, isPrintable c = true := by
  intro c hc
  rw [keyText] at hc
  split at hc
  · rename_i hkey
    rw [List.mem_append, List.mem_singleton] at hc
    rcases hc with hc | rfl
    · exact isPrintable_of_isInline (isInline_simpleKey hkey c hc)
    · rfl
  · rw [List.mem_cons, List.mem_cons] at hc
    rcases hc with rfl | rfl | hc
    · rfl
    · rfl
    · exact isPrintable_textLine _ _ c hc

/-- Whether all of a text is printable. -/
def AllPrintable (text : List Char) : Prop :=
  ∀ c ∈ text, isPrintable c = true

@[simp] theorem allPrintable_nil : AllPrintable [] := nofun

@[simp] theorem allPrintable_cons {c : Char} {text : List Char} :
    AllPrintable (c :: text) ↔ isPrintable c = true ∧ AllPrintable text :=
  List.forall_mem_cons

@[simp] theorem allPrintable_append {text rest : List Char} :
    AllPrintable (text ++ rest) ↔ AllPrintable text ∧ AllPrintable rest :=
  List.forall_mem_append

@[simp] theorem allPrintable_spaces (n : Nat) : AllPrintable (spaces n) :=
  fun _ => isPrintable_spaces _

/-- Whether what a place puts before a value is printable. -/
structure Place.IsPrintable (place : Place) : Prop where
  beforeScalar : AllPrintable place.beforeScalar
  beforeList : AllPrintable place.beforeList
  beforeRecord : AllPrintable place.beforeRecord

theorem Place.IsPrintable.block (column : Nat) : (Place.block column).IsPrintable :=
  ⟨allPrintable_nil, allPrintable_nil, allPrintable_nil⟩

theorem Place.IsPrintable.afterKey (column : Nat) (name : String) :
    (Place.afterKey column name).IsPrintable := by
  rw [Place.afterKey]
  split <;>
    constructor <;>
    simp [Place.afterColon, Place.afterQuestion, isPrintable]

mutual

theorem allPrintable_lines {place : Place} (hplace : place.IsPrintable) :
    ∀ value : Datum, AllPrintable (lines place value)
  | .null => by
      rw [lines]
      simp [hplace.beforeScalar, isPrintable]
  | .natural value => by
      have hdigits : AllPrintable (Nat.toDigits 10 value) := fun c hc =>
        isPrintable_of_isInline ((allowsPlain_iff.mp (allowsPlain_toDigits value)).1 c hc)
      rw [lines]
      simp [hplace.beforeScalar, hdigits, isPrintable]
  | .text value => by
      rw [lines, allPrintable_append]
      exact ⟨hplace.beforeScalar, isPrintable_textLine _ value⟩
  | .list [] => by
      rw [lines]
      simp [hplace.beforeScalar, isPrintable]
  | .list (item :: items) => by
      rw [lines]
      simp [hplace.beforeList, isPrintable, allPrintable_lines (.block _) item,
        allPrintable_itemLines _ items]
  | .record [] => by
      rw [lines]
      simp [hplace.beforeScalar, isPrintable]
  | .record ((name, value) :: fields) => by
      have hkey : AllPrintable (keyText place.recordColumn name) := isPrintable_keyText _ name
      rw [lines]
      simp [hplace.beforeRecord, hkey, allPrintable_lines (.afterKey _ name) value,
        allPrintable_fieldLines _ fields]

theorem allPrintable_itemLines (column : Nat) :
    ∀ items : List Datum, AllPrintable (itemLines column items)
  | [] => nofun
  | item :: items => by
      rw [itemLines]
      simp [isPrintable, allPrintable_lines (.block _) item,
        allPrintable_itemLines column items]

theorem allPrintable_fieldLines (column : Nat) :
    ∀ fields : List (String × Datum), AllPrintable (fieldLines column fields)
  | [] => nofun
  | (name, value) :: fields => by
      have hkey : AllPrintable (keyText column name) := isPrintable_keyText _ name
      rw [fieldLines]
      simp [hkey, allPrintable_lines (.afterKey _ name) value,
        allPrintable_fieldLines column fields]

end

/-! ## The end of the text -/

namespace Layout

/-- At the end of the text the blocks that are left end. -/
theorem next?_end {tokens tokens' : List Token} {indent : Int} {outer : List Int} {mark : Mark}
    (hmark : mark.column = 0) (hindent : indent ≤ 0)
    (hclose : ∀ mark, (ready tokens indent outer mark []).closeBlocks (-1) =
      ready tokens' (-1) [] mark []) :
    ∃ last, (ready tokens indent outer mark []).next? = some last ∧
      last.tokens = .streamEnd :: tokens' := by
  have hbefore : (ready tokens indent outer mark []).beforeToken? =
      some (ready tokens indent outer mark []) := by
    rw [beforeToken?, ready, skipGap_outside atSign_nil, dropStale?_none, Option.map_some]
    refine congrArg some (closeBlocks_of_le ?_)
    rw [show (outside tokens indent outer none true mark []).cursor.column = 0 from hmark]
    exact hindent
  have hend : (ready tokens indent outer mark []).atEnd? =
      some (outside (.streamEnd :: tokens') (-1) [] none false mark []) := by
    have hatEnd : (ready tokens indent outer mark []).atEnd? =
        ((ready tokens indent outer (if mark.column = 0 then mark else ⟨mark.line + 1, 0⟩)
          []).closeBlocks (-1)).dropPending?.bind fun layout =>
            some ({ layout with keyAllowed := false }.push .streamEnd) := rfl
    rw [hatEnd, if_pos hmark, hclose]
    rfl
  refine ⟨outside (.streamEnd :: tokens') (-1) [] none false mark [], ?_, rfl⟩
  rw [next?_eq, hbefore, Option.bind_some, takeToken?]
  dsimp only [ready, outside] at hend ⊢
  rw [hend]
  exact dropStale?_none

/-- The root of a document is a block of its own. -/
theorem tokensFrom_of_reachesLine {text : List Char} {tokens tokens' : List Token} {indent : Int}
    {outer : List Int}
    (hline : (ready [] (-1) [] ⟨0, 0⟩ text).ReachesLine tokens indent outer [])
    (hindent : indent ≤ 0)
    (hclose : ∀ mark, (ready tokens indent outer mark []).closeBlocks (-1) =
      ready tokens' (-1) [] mark []) :
    (Layout.start text).tokensFrom (text.length + 1) = tokens'.reverse ++ [.streamEnd] := by
  obtain ⟨mark, hmark, hreaches⟩ := hline
  obtain ⟨last, hlast, htokens⟩ := next?_end hmark hindent hclose
  have hread := hreaches.tokensFrom_eq hlast (by rw [htokens]; rfl)
  rw [htokens, List.reverse_cons] at hread
  exact hread

/-- Outside of all blocks there is none to close. -/
theorem closeBlocks_root (tokens : List Token) (mark : Mark) :
    (ready tokens (-1) [] mark []).closeBlocks (-1) = ready tokens (-1) [] mark [] :=
  closeBlocks_of_le (Int.le_refl _)

/-- The block of the root is closed at the end of the text. -/
theorem closeBlocks_rootBlock (tokens : List Token) (mark : Mark) :
    (ready tokens 0 [-1] mark []).closeBlocks (-1) =
      ready (.blockEnd :: tokens) (-1) [] mark [] := by
  rw [ready, closeBlocks_of_lt (by decide)]
  exact closeBlocks_root _ mark

/-- Nothing follows the lines of the root. -/
theorem follows_nil : Follows ((0 : Nat) : Int) [] :=
  ⟨0, [], rfl, atSign_nil, Int.le_refl _⟩

/-- A root without contents is a pair of brackets. -/
theorem tokensFrom_brackets {first last : Char} {start ending : Token}
    (h : (first, last, start, ending) ∈ emptySigns) :
    (Layout.start [first, last, '\n']).tokensFrom 4 = [start, ending, .streamEnd] :=
  tokensFrom_of_reachesLine (reachesLine_brackets h (by decide) follows_nil) (by decide)
    (closeBlocks_root _)

/-- A root with contents is a block, whose signs are at the start of their lines. -/
theorem tokensFrom_rootBlock {text : List Char} {tokens : List Token}
    (hline : (ready [] (-1) [] ⟨0, 0⟩ text).ReachesLine tokens 0 [-1] []) :
    (Layout.start text).tokensFrom (text.length + 1) =
      tokens.reverse ++ [.blockEnd, .streamEnd] := by
  rw [tokensFrom_of_reachesLine hline (Int.le_refl 0) (closeBlocks_rootBlock tokens),
    List.reverse_cons, List.append_assoc]
  rfl

end Layout

/-- A document is cut into the tokens of its list or record. -/
theorem tokens_document {value : Datum} (h : value.isCollection = true) :
    tokens (document value) = valueTokens false value ++ [.streamEnd] := by
  have hprint : AllPrintable (document value) := allPrintable_lines (.block 0) value
  rw [tokens, prepare?_of_isPrintable hprint]
  cases value with
  | null => cases h
  | natural _ => cases h
  | text _ => cases h
  | list items =>
      cases items with
      | nil =>
          have hsigns : ('[', ']', .flowListStart, .flowListEnd) ∈ Layout.emptySigns := by decide
          have hread := Layout.tokensFrom_brackets hsigns
          simpa [document, lines, Place.block, valueTokens] using hread
      | cons item items =>
          have henters : Layout.Enters .blockListStart 0 [] (-1) [] [.blockListStart] [-1] :=
            .opens (by decide)
          have hread := Layout.tokensFrom_rootBlock
            (Layout.reachesLine_items (Layout.reads_value item) (Layout.itemsRead items) rfl
              henters Layout.follows_nil)
          simpa [document, lines, Place.block, valueTokens] using hread
  | record fields =>
      cases fields with
      | nil =>
          have hsigns : ('\x7b', '\x7d', .flowTableStart, .flowTableEnd) ∈ Layout.emptySigns := by
            decide
          have hread := Layout.tokensFrom_brackets hsigns
          simpa [document, lines, Place.block, valueTokens] using hread
      | cons field fields =>
          have henters : Layout.Enters .blockTableStart 0 [] (-1) [] [.blockTableStart] [-1] :=
            .opens (by decide)
          have hread := Layout.tokensFrom_rootBlock
            (Layout.reachesLine_fields field.1 (Layout.reads_value field.2)
              (Layout.fieldsRead fields) rfl henters Layout.follows_nil)
          simpa [document, lines, Place.block, valueTokens] using hread

end StorageSurvey.Yaml
