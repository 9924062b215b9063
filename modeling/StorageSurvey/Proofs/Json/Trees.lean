import StorageSurvey.Json.Dialect
import StorageSurvey.Json.Printer
import StorageSurvey.Proofs.Document.Written
import StorageSurvey.Proofs.Json.Grammar

/-!
# Written JSON is read as its tree

The text of a value over several lines is one of the ways to write the value, whatever its
indentation is: its texts, numbers, items and fields are written as the grammar has them, with
blanks between them.  So the document in it is the tree of the value and nothing else, and the
dialect understands every scalar in that tree.
-/

namespace StorageSurvey.Json

open StorageSurvey.Document StorageSurvey.Number

/-- The scalars of JSON for values. -/
def forms : ScalarForms Scalar where
  null := .null
  natural value := .number ⟨false, Nat.toDigits 10 value, [], none⟩
  text value := .text (some value)
  key name := .text (some name)

/-! ## What is written -/

mutual

/-- A value as it is written. -/
def literal : Datum → Literal
  | .null => .null
  | .natural value => .number ⟨false, Nat.toDigits 10 value, [], none⟩
  | .text value => .text value
  | .list items => .list (itemLiterals items)
  | .record fields => .table (fieldLiterals fields)

def itemLiterals : List Datum → List Literal
  | [] => []
  | item :: items => literal item :: itemLiterals items

def fieldLiterals : List (String × Datum) → List (String × Literal)
  | [] => []
  | (name, value) :: fields => (name, literal value) :: fieldLiterals fields

end

mutual

theorem tree_literal (value : Datum) : (literal value).tree = forms.tree value := by
  match value with
  | .null | .natural _ | .text _ => rfl
  | .list items => rw [literal, Literal.tree, itemTrees_literals items, ScalarForms.tree]
  | .record fields => rw [literal, Literal.tree, entryTrees_literals fields, ScalarForms.tree]

theorem itemTrees_literals (items : List Datum) :
    itemTrees (itemLiterals items) = forms.trees items := by
  match items with
  | [] => rfl
  | item :: items =>
      rw [itemLiterals, itemTrees, tree_literal item, itemTrees_literals items, ScalarForms.trees]

theorem entryTrees_literals (fields : List (String × Datum)) :
    entryTrees (fieldLiterals fields) = forms.entries fields := by
  match fields with
  | [] => rfl
  | (name, value) :: fields =>
      rw [fieldLiterals, entryTrees, tree_literal value, entryTrees_literals fields,
        ScalarForms.entries]
      rfl

end

/-! ## Scalars -/

theorem hexDigit?_hexDigit : ∀ n < 16, hexDigit? (hexDigit n) = some n := by decide

theorem codeUnit?_hexDigits {n : Nat} (h : n < 0x20) :
    codeUnit? '0' '0' (hexDigit (n / 16)) (hexDigit (n % 16)) = some n := by
  simp only [codeUnit?, hexDigit?_hexDigit (n / 16) (by omega),
    hexDigit?_hexDigit (n % 16) (by omega)]
  have : (some (((0 * 16 + 0) * 16 + n / 16) * 16 + n % 16) : Option Nat) = some n := by
    congr 1
    omega
  exact this

/-- What a character is written as stands for it. -/
theorem spellsText_textChar (c : Char) {content written : List Char}
    (h : SpellsText content written) : SpellsText (c :: content) (textChar c ++ written) := by
  unfold textChar
  by_cases hescaped : c = '"' ∨ c = '\\'
  · rw [if_pos hescaped]
    rcases hescaped with rfl | rfl <;> exact .escape rfl h
  rw [if_neg hescaped]
  -- each letter after a backslash stands for a character of its own
  by_cases hb : c = '\x08'
  · subst hb
    exact .escape rfl h
  by_cases hf : c = '\x0c'
  · subst hf
    exact .escape rfl h
  by_cases hn : c = '\n'
  · subst hn
    exact .escape rfl h
  by_cases hr : c = '\r'
  · subst hr
    exact .escape rfl h
  by_cases ht : c = '\t'
  · subst ht
    exact .escape rfl h
  rw [if_neg hb, if_neg hf, if_neg hn, if_neg hr, if_neg ht]
  rw [not_or] at hescaped
  by_cases hcontrol : c.toNat < 0x20
  · have hhigh : isHighSurrogate c.toNat = false := by
      simp only [isHighSurrogate, Bool.and_eq_false_iff, decide_eq_false_iff_not]
      omega
    have hlow : isLowSurrogate c.toNat = false := by
      simp only [isLowSurrogate, Bool.and_eq_false_iff, decide_eq_false_iff_not]
      omega
    have hunit := SpellsText.unit (codeUnit?_hexDigits hcontrol) hhigh hlow h
    rw [Char.ofNat_toNat] at hunit
    rwa [if_pos hcontrol]
  · rw [if_neg hcontrol]
    refine .char ?_ h
    simp only [isUnescaped, Bool.and_eq_true, decide_eq_true_eq, bne_iff_ne]
    exact ⟨⟨Nat.not_lt.mp hcontrol, hescaped.1⟩, hescaped.2⟩

theorem spellsText_flatMap_textChar (text : List Char) :
    SpellsText text (text.flatMap textChar) := by
  induction text with
  | nil => exact .nil
  | cons c text ih => exact spellsText_textChar c ih

/-- A natural is written with its digits, and only zero begins with a zero. -/
theorem spellsNumber_toDigits (value : Nat) :
    SpellsNumber ⟨false, Nat.toDigits 10 value, [], none⟩ (Nat.toDigits 10 value) := by
  have hwhole : WholeDigits (Nat.toDigits 10 value) := by
    cases hwritten : Nat.toDigits 10 value with
    | nil => exact absurd hwritten Nat.toDigits_ne_nil
    | cons c others =>
        by_cases hzero : c = '0'
        · subst hzero
          obtain ⟨-, rfl⟩ := toDigits_eq_zero_cons hwritten
          exact .inl rfl
        · refine .inr ⟨⟨List.cons_ne_nil _ _, fun d hd => ?_⟩, fun hhead => ?_⟩
          · exact isDigit_of_mem_toDigits (hwritten ▸ hd)
          · exact hzero (Option.some.inj hhead)
  simpa using SpellsNumber.unsigned hwhole .none .none

/-! ## Values over several lines -/

theorem blank_newline (indent : Nat) : Blank (newline indent) := by
  intro c hc
  rcases List.mem_cons.mp hc with rfl | hc
  · rfl
  · rw [(List.mem_replicate.mp hc).2]
    rfl

theorem spellsName_quotedText (name : String) {before : List Char} (hbefore : Blank before) :
    SpellsName name (before ++ quotedText name) := by
  have h := SpellsName.mk hbefore (spellsText_flatMap_textChar name.toList) blank_nil
  rwa [String.ofList_toList, List.append_assoc] at h

mutual

/-- A value over several lines is written as the grammar has it. -/
theorem spells_pretty (indent : Nat) (value : Datum) :
    SpellsBare (literal value) (pretty indent value) := by
  match value with
  | .null => exact .null
  | .natural value => exact .number (spellsNumber_toDigits value)
  | .text value =>
      have h := SpellsBare.text (spellsText_flatMap_textChar value.toList)
      rwa [String.ofList_toList] at h
  | .list [] => exact .emptyList blank_nil
  | .list (item :: items) =>
      have h := spells_prettyItems (indent + 2) items (spells_pretty (indent + 2) item)
        (blank_newline indent)
      rw [pretty, literal, itemLiterals]
      simpa using SpellsBare.list h
  | .record [] => exact .emptyTable blank_nil
  | .record ((name, value) :: fields) =>
      have h := spells_prettyFields (indent + 2) name fields (spells_pretty (indent + 2) value)
        (blank_newline indent)
      rw [pretty, literal, fieldLiterals]
      simpa using SpellsBare.table h

/-- The items after the first are written behind commas. -/
theorem spells_prettyItems (indent : Nat) (items : List Datum) {first : Literal}
    {text after : List Char} (hfirst : SpellsBare first text) (hafter : Blank after) :
    SpellsItems (first :: itemLiterals items)
      (newline indent ++ text ++ (prettyItems indent items ++ after)) := by
  match items with
  | [] => exact .last (.mk (blank_newline indent) hfirst hafter)
  | item :: items =>
      have h := spells_prettyItems indent items (spells_pretty indent item) hafter
      have hpadded := Spells.mk (blank_newline indent) hfirst blank_nil
      rw [prettyItems, itemLiterals]
      simpa using SpellsItems.cons hpadded h

theorem spells_prettyFields (indent : Nat) (name : String) (fields : List (String × Datum))
    {first : Literal} {text after : List Char} (hfirst : SpellsBare first text)
    (hafter : Blank after) :
    SpellsEntries ((name, first) :: fieldLiterals fields)
      (newline indent ++ quotedText name ++
        ':' :: ' ' :: (text ++ (prettyFields indent fields ++ after))) := by
  have hname := spellsName_quotedText name (blank_newline indent)
  match fields with
  | [] => exact .last hname (.mk blank_space hfirst hafter)
  | (other, value) :: fields =>
      have h := spells_prettyFields indent other fields (spells_pretty indent value) hafter
      have hpadded := Spells.mk blank_space hfirst blank_nil
      rw [prettyFields, fieldLiterals]
      simpa using SpellsEntries.cons hname hpadded h

end

/-- The document in the text of a value is the tree of the value, also if blanks follow. -/
theorem ofText_pretty_append (value : Datum) {after : List Char} (hafter : Blank after) :
    Document.ofText (String.ofList (pretty 0 value ++ after)) = ⟨forms.tree value, true⟩ := by
  have h := ofText_of_spells (Spells.mk blank_nil (spells_pretty 0 value) hafter)
  rwa [tree_literal] at h

/-- The document in the text of a value is the tree of the value. -/
theorem ofText_pretty (value : Datum) :
    Document.ofText (String.ofList (pretty 0 value)) = ⟨forms.tree value, true⟩ := by
  have h := ofText_pretty_append value blank_nil
  rwa [List.append_nil] at h

/-! ## What the dialect makes of it -/

/-- Digits are collected without loss as long as their value fits the word. -/
theorem foldl_pushWhole {digits : List Char} {word : Nat}
    (hvalue : Nat.ofDigitChars 10 digits word < UInt64.size) :
    digits.foldl Significand.pushWhole ⟨word, 0, false⟩ =
      ⟨Nat.ofDigitChars 10 digits word, 0, false⟩ := by
  induction digits generalizing word with
  | nil => rfl
  | cons digit digits ih =>
      rw [Nat.ofDigitChars_cons] at hvalue ⊢
      have hnext : 10 * word + (digit.toNat - '0'.toNat) = word * 10 + (digit.toNat - 48) := by
        rw [Nat.mul_comm]
        rfl
      rw [hnext] at hvalue ⊢
      have hless := Nat.lt_of_le_of_lt (Number.le_ofDigitChars digits _) hvalue
      rw [List.foldl_cons, Significand.pushWhole_of_lt hless, ih hvalue]

theorem value_natural {value : Nat} (h : value < wordLimit) :
    NumberLiteral.value ⟨false, Nat.toDigits 10 value, [], none⟩ = .integer value := by
  have hwhole : NumberLiteral.wholePart ⟨false, Nat.toDigits 10 value, [], none⟩ =
      ⟨value, 0, false⟩ := by
    rw [NumberLiteral.wholePart, foldl_pushWhole (by rwa [Nat.ofDigitChars_ten_toDigits]),
      Nat.ofDigitChars_ten_toDigits]
  simp [NumberLiteral.value, hwhole]

theorem dialect_understands : dialect.Understands forms where
  text?_text _ := rfl
  text?_key _ := rfl
  integer?_natural value h := by
    change Scalar.integer? (forms.natural value) = _
    simp only [forms, Scalar.integer?, value_natural h]
  isAbsent_text path value := rfl
  variant_text path value := rfl
  found_null _ := rfl
  found_natural path value h := by
    change Scalar.found (forms.natural value) = _
    simp only [forms, Scalar.found, value_natural h]
  found_text _ _ := rfl
  found_key _ _ := rfl

end StorageSurvey.Json
