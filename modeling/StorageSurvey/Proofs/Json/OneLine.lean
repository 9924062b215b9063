import StorageSurvey.Proofs.Json.Kinds

/-!
# Values on one line

`SpellsCompact` is the part of the grammar without blanks in which texts are escaped as the printer
escapes them.  A number may still be written in any way, with a fraction or an exponent.

The compact text of a value belongs to it (`spellsCompact_compact`), and it is the only one that
does: the printer writes a natural with its digits alone, and a literal with these digits, no
fraction and no exponent leaves nothing open (`eq_compact_of_spells`).  What remains to be shown of
a reader is therefore that it takes no other literal for the value.
-/

namespace StorageSurvey.Json

open StorageSurvey.Document StorageSurvey.Number

/-! ## The grammar without blanks -/

mutual

/-- The ways to write a value without blanks and with the printer's escapes. -/
inductive SpellsCompact : Literal → List Char → Prop
  | null : SpellsCompact .null ['n', 'u', 'l', 'l']
  | true : SpellsCompact (.boolean true) ['t', 'r', 'u', 'e']
  | false : SpellsCompact (.boolean false) ['f', 'a', 'l', 's', 'e']
  | number {literal : NumberLiteral} {text : List Char} (hnumber : SpellsNumber literal text) :
      SpellsCompact (.number literal) text
  | text (value : String) : SpellsCompact (.text value) (quotedText value)
  | emptyList : SpellsCompact (.list []) ['[', ']']
  | list {items : List Literal} {text : List Char} (hitems : SpellsCompactItems items text) :
      SpellsCompact (.list items) ('[' :: text ++ [']'])
  | emptyTable : SpellsCompact (.table []) ['\x7b', '\x7d']
  | table {entries : List (String × Literal)} {text : List Char}
      (hentries : SpellsCompactEntries entries text) :
      SpellsCompact (.table entries) ('\x7b' :: text ++ ['\x7d'])

/-- The ways to write the items of a list. -/
inductive SpellsCompactItems : List Literal → List Char → Prop
  | last {item : Literal} {text : List Char} (hitem : SpellsCompact item text) :
      SpellsCompactItems [item] text
  | cons {item : Literal} {items : List Literal} {text texts : List Char}
      (hitem : SpellsCompact item text) (hitems : SpellsCompactItems items texts) :
      SpellsCompactItems (item :: items) (text ++ ',' :: texts)

/-- The ways to write the entries of a table. -/
inductive SpellsCompactEntries : List (String × Literal) → List Char → Prop
  | last (name : String) {value : Literal} {text : List Char} (hvalue : SpellsCompact value text) :
      SpellsCompactEntries [(name, value)] (quotedText name ++ ':' :: text)
  | cons (name : String) {value : Literal} {entries : List (String × Literal)}
      {text texts : List Char} (hvalue : SpellsCompact value text)
      (hentries : SpellsCompactEntries entries texts) :
      SpellsCompactEntries ((name, value) :: entries)
        (quotedText name ++ ':' :: text ++ ',' :: texts)

end

theorem spellsName_self (name : String) : SpellsName name (quotedText name) :=
  spellsName_quotedText name blank_nil

mutual

/-- What is written without blanks is written as the grammar has it. -/
theorem SpellsCompact.bare {value : Literal} {text : List Char} (h : SpellsCompact value text) :
    SpellsBare value text := by
  match h with
  | .null => exact .null
  | .true => exact .true
  | .false => exact .false
  | .number hnumber => exact .number hnumber
  | .text value =>
      have htext := SpellsBare.text (spellsText_flatMap_textChar value.toList)
      rwa [String.ofList_toList] at htext
  | .emptyList => exact .emptyList blank_nil
  | .list hitems => exact .list hitems.items
  | .emptyTable => exact .emptyTable blank_nil
  | .table hentries => exact .table hentries.entries

theorem SpellsCompactItems.items {items : List Literal} {text : List Char}
    (h : SpellsCompactItems items text) : SpellsItems items text := by
  match h with
  | .last hitem => exact .last (.of_bare hitem.bare)
  | .cons hitem hitems => exact .cons (.of_bare hitem.bare) hitems.items

theorem SpellsCompactEntries.entries {entries : List (String × Literal)} {text : List Char}
    (h : SpellsCompactEntries entries text) : SpellsEntries entries text := by
  match h with
  | .last name hvalue => exact .last (spellsName_self name) (.of_bare hvalue.bare)
  | .cons name hvalue hentries =>
      exact .cons (spellsName_self name) (.of_bare hvalue.bare) hentries.entries

end

/-- The items of a list that is written without blanks are. -/
theorem SpellsCompactItems.exists_of_mem {items : List Literal} {text : List Char}
    (h : SpellsCompactItems items text) {item : Literal} (hitem : item ∈ items) :
    ∃ written, SpellsCompact item written := by
  match h with
  | .last hlast =>
      rw [List.mem_singleton.mp hitem]
      exact ⟨_, hlast⟩
  | .cons hfirst hitems =>
      rcases List.mem_cons.mp hitem with rfl | hitem
      · exact ⟨_, hfirst⟩
      · exact hitems.exists_of_mem hitem

theorem SpellsCompactEntries.exists_of_mem {entries : List (String × Literal)} {text : List Char}
    (h : SpellsCompactEntries entries text) {entry : String × Literal} (hentry : entry ∈ entries) :
    ∃ written, SpellsCompact entry.2 written := by
  match h with
  | .last _ hlast =>
      rw [List.mem_singleton.mp hentry]
      exact ⟨_, hlast⟩
  | .cons _ hfirst hentries =>
      rcases List.mem_cons.mp hentry with rfl | hentry
      · exact ⟨_, hfirst⟩
      · exact hentries.exists_of_mem hentry

/-- Whether a value can be written without blanks. -/
def Literal.IsSpelled (value : Literal) : Prop :=
  ∃ text, SpellsCompact value text

theorem Literal.IsSpelled.item {items : List Literal} (h : IsSpelled (.list items))
    {item : Literal} (hitem : item ∈ items) : item.IsSpelled := by
  obtain ⟨text, hspells⟩ := h
  cases hspells with
  | emptyList => cases hitem
  | list hitems => exact hitems.exists_of_mem hitem

theorem Literal.IsSpelled.entry {entries : List (String × Literal)} (h : IsSpelled (.table entries))
    {name : String} {value : Literal} (hentry : (name, value) ∈ entries) : value.IsSpelled := by
  obtain ⟨text, hspells⟩ := h
  cases hspells with
  | emptyTable => cases hentry
  | table hentries => exact hentries.exists_of_mem hentry

/-! ## Numbers with digits alone -/

/-- Without a fraction and an exponent only the digits are left to write. -/
theorem eq_of_spellsNumber {digits text : List Char}
    (h : SpellsNumber ⟨false, digits, [], none⟩ text) : WholeDigits digits ∧ text = digits := by
  cases h with
  | unsigned hwhole hfraction hexponent =>
      cases hexponent
      cases hfraction with
      | none => exact ⟨hwhole, by simp⟩
      | point hdigits => exact absurd rfl hdigits.1

/-- Digits before a point are those of their value. -/
theorem WholeDigits.eq_toDigits {digits : List Char} (h : WholeDigits digits) :
    digits = Nat.toDigits 10 (Nat.ofDigitChars 10 digits 0) := by
  rcases h with rfl | ⟨⟨hne, hdigits⟩, hhead⟩
  · rfl
  · obtain ⟨c, others, rfl⟩ := List.exists_cons_of_ne_nil hne
    obtain ⟨hless, hchar⟩ := digitChar_of_isDigit (hdigits c List.mem_cons_self)
    have hpositive : 0 < c.toNat - '0'.toNat := by
      refine Nat.pos_of_ne_zero fun hzero => hhead ?_
      rw [hzero] at hchar
      rw [List.head?_cons, ← hchar]
      rfl
    have hothers : ∀ d ∈ others, d.isDigit = true := fun d hd =>
      hdigits d (List.mem_cons_of_mem c hd)
    rw [Nat.ofDigitChars_cons, Nat.mul_zero, Nat.zero_add,
      toDigits_ofDigitChars hothers hpositive, Nat.toDigits_of_lt_base hless, hchar,
      List.singleton_append]

/-! ## The compact text of a value -/

mutual

theorem spellsCompact_compact (value : Datum) : SpellsCompact (literal value) (compact value) := by
  match value with
  | .null => exact .null
  | .natural value => exact .number (spellsNumber_toDigits value)
  | .text value => exact .text value
  | .list [] => exact .emptyList
  | .list (item :: items) =>
      have h := spellsCompact_compactItems items (spellsCompact_compact item)
      rw [compact, literal, itemLiterals]
      simpa using SpellsCompact.list h
  | .record [] => exact .emptyTable
  | .record ((name, value) :: fields) =>
      have h := spellsCompact_compactFields name fields (spellsCompact_compact value)
      rw [compact, literal, fieldLiterals]
      simpa using SpellsCompact.table h

/-- The items after the first are written behind commas. -/
theorem spellsCompact_compactItems (items : List Datum) {first : Literal} {text : List Char}
    (hfirst : SpellsCompact first text) :
    SpellsCompactItems (first :: itemLiterals items) (text ++ compactItems items) := by
  match items with
  | [] => simpa [compactItems, itemLiterals] using SpellsCompactItems.last hfirst
  | item :: items =>
      have h := spellsCompact_compactItems items (spellsCompact_compact item)
      rw [compactItems, itemLiterals]
      exact .cons hfirst h

theorem spellsCompact_compactFields (name : String) (fields : List (String × Datum))
    {first : Literal} {text : List Char} (hfirst : SpellsCompact first text) :
    SpellsCompactEntries ((name, first) :: fieldLiterals fields)
      (quotedText name ++ ':' :: text ++ compactFields fields) := by
  match fields with
  | [] => simpa [compactFields, fieldLiterals] using SpellsCompactEntries.last name hfirst
  | (other, value) :: fields =>
      have h := spellsCompact_compactFields other fields (spellsCompact_compact value)
      rw [compactFields, fieldLiterals]
      simpa using SpellsCompactEntries.cons name hfirst h

end

mutual

/-- Only the compact text of a value writes the value without blanks. -/
theorem eq_compact_of_spells (value : Datum) {text : List Char}
    (h : SpellsCompact (literal value) text) : text = compact value := by
  match value with
  | .null =>
      rw [literal] at h
      cases h
      rfl
  | .natural value =>
      rw [literal] at h
      cases h with
      | number hnumber => exact (eq_of_spellsNumber hnumber).2
  | .text value =>
      rw [literal] at h
      cases h
      rfl
  | .list [] =>
      rw [literal, itemLiterals] at h
      cases h with
      | emptyList => rfl
      | list hitems => cases hitems
  | .list (item :: items) =>
      rw [literal, itemLiterals] at h
      cases h with
      | list hitems =>
          have hfirst : ∀ text, SpellsCompact (literal item) text → text = compact item :=
            fun _ htext => eq_compact_of_spells item htext
          rw [eq_compactItems_of_spells items hfirst hitems, compact]
          simp
  | .record [] =>
      rw [literal, fieldLiterals] at h
      cases h with
      | emptyTable => rfl
      | table hentries => cases hentries
  | .record ((name, value) :: fields) =>
      rw [literal, fieldLiterals] at h
      cases h with
      | table hentries =>
          have hfirst : ∀ text, SpellsCompact (literal value) text → text = compact value :=
            fun _ htext => eq_compact_of_spells value htext
          rw [eq_compactFields_of_spells name fields hfirst hentries, compact]
          simp

/-- If the first item can be written in one way only, so can the items. -/
theorem eq_compactItems_of_spells (items : List Datum) {first : Literal} {written text : List Char}
    (hfirst : ∀ text, SpellsCompact first text → text = written)
    (h : SpellsCompactItems (first :: itemLiterals items) text) :
    text = written ++ compactItems items := by
  match items with
  | [] =>
      rw [itemLiterals] at h
      cases h with
      | last hitem => rw [hfirst _ hitem, compactItems, List.append_nil]
      | cons _ hitems => cases hitems
  | item :: items =>
      rw [itemLiterals] at h
      cases h with
      | cons hitem hitems =>
          have hnext : ∀ text, SpellsCompact (literal item) text → text = compact item :=
            fun _ htext => eq_compact_of_spells item htext
          rw [hfirst _ hitem, eq_compactItems_of_spells items hnext hitems, compactItems,
            List.cons_append]

theorem eq_compactFields_of_spells (name : String) (fields : List (String × Datum))
    {first : Literal} {written text : List Char}
    (hfirst : ∀ text, SpellsCompact first text → text = written)
    (h : SpellsCompactEntries ((name, first) :: fieldLiterals fields) text) :
    text = quotedText name ++ ':' :: written ++ compactFields fields := by
  match fields with
  | [] =>
      rw [fieldLiterals] at h
      cases h with
      | last _ hvalue => rw [hfirst _ hvalue, compactFields, List.append_nil]
      | cons _ _ hentries => cases hentries
  | (other, value) :: fields =>
      rw [fieldLiterals] at h
      cases h with
      | cons _ hvalue hentries =>
          have hnext : ∀ text, SpellsCompact (literal value) text → text = compact value :=
            fun _ htext => eq_compact_of_spells value htext
          rw [hfirst _ hvalue, eq_compactFields_of_spells other fields hnext hentries,
            compactFields]
          simp

end

/-! ## Values that stand for one thing -/

/-- A natural can be written in one way only, though the grammar has many ways to write a number. -/
theorem means_natural_iff {α : Type} {toNat : α → Nat} {value : Literal} (h : value.IsSpelled)
    (result : α) :
    (Kind.natural toNat).Means value result ↔ value = literal (.natural (toNat result)) := by
  rw [literal]
  constructor
  · rintro ⟨digits, rfl, hvalue⟩
    obtain ⟨text, hspells⟩ := h
    cases hspells with
    | number hnumber =>
        have hdigits := (eq_of_spellsNumber hnumber).1.eq_toDigits
        rw [hvalue] at hdigits
        rw [← hdigits]
  · rintro rfl
    exact ⟨_, rfl, Nat.ofDigitChars_ten_toDigits⟩

theorem itemLiterals_eq_map (items : List Datum) : itemLiterals items = items.map literal := by
  induction items with
  | nil => rfl
  | cons item items ih => rw [itemLiterals, ih, List.map_cons]

/-- Where every member stands for one value only, so does the list. -/
theorem means_list_iff {α : Type} {kind : Kind α} {write : α → Datum} {value : Literal}
    (h : ∀ items, value = .list items → ∀ item ∈ items, ∀ result,
      kind.Means item result ↔ item = literal (write result)) (results : List α) :
    kind.list.Means value results ↔ value = literal (.list (results.map write)) := by
  rw [literal, itemLiterals_eq_map, List.map_map]
  cases value with
  | list items =>
      have hitem := h items rfl
      rw [Literal.list.injEq]
      change List.Forall₂ kind.Means items results ↔ _
      clear h
      induction items generalizing results with
      | nil => cases results <;> simp
      | cons item items ih =>
          have hrest := fun results => ih results fun other hother =>
            hitem other (List.mem_cons_of_mem item hother)
          cases results with
          | nil => simp
          | cons result results =>
              rw [List.forall₂_cons, hitem item List.mem_cons_self, hrest, List.map_cons,
                List.cons.injEq, Function.comp_apply]
  | null | boolean _ | number _ | text _ | table _ => exact iff_of_false id Literal.noConfusion

theorem means_texts_iff (value : Literal) (texts : List String) :
    (Kind.list .text).Means value texts ↔ value = literal (.texts texts) :=
  means_list_iff (fun _ _ _ _ text => by rw [literal]; rfl) texts

end StorageSurvey.Json
