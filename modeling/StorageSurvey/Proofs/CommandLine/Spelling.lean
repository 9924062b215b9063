import Mathlib.Data.List.TakeWhile
import StorageSurvey.Proofs.CommandLine.Items

/-!
# How items are spelled

In a place of a command line, a flag is spelled by its name after two hyphens or by its letter after
one; an option with a value is spelled so too, and its value is the next word, or stands in the same
word.  Letters of flags can be put together, and the last of them can be that of an option with its
value.  A word that is a value or an identifier does not begin with a hyphen.

Reading the words in a place takes in the items that they spell, one by one, but for the last value,
which is taken in at the end of the place.
-/

namespace StorageSurvey.CommandLine

variable {α : Type}

/-! ## The spelling -/

/-- Whether a word does not begin with a hyphen. -/
def Unhyphenated (word : String) : Prop :=
  word.toList.head? ≠ some '-'

instance (word : String) : Decidable (Unhyphenated word) :=
  inferInstanceAs (Decidable (_ ≠ _))

/-- The items that letters spell, and the option of which the value is to follow. -/
inductive SpellsLetters (place : Place α) :
    List Char → List Item → Option ValuedOption → Prop
  | flag {letter : Char} {flag : Flag} (hletter : place.short? letter = some (.flag flag)) :
      SpellsLetters place [letter] [.flag flag] none
  | more {letter : Char} {letters : List Char} {flag : Flag} {items : List Item}
      {awaited : Option ValuedOption} (hletter : place.short? letter = some (.flag flag))
      (hmore : SpellsLetters place letters items awaited) :
      SpellsLetters place (letter :: letters) (.flag flag :: items) awaited
  | awaits {letter : Char} {option : ValuedOption}
      (hletter : place.short? letter = some (.valued option)) :
      SpellsLetters place [letter] [] (some option)
  | equals {letter : Char} {option : ValuedOption} (text : String)
      (hletter : place.short? letter = some (.valued option)) :
      SpellsLetters place (letter :: '=' :: text.toList) [.valued option text] none
  | joined {letter first : Char} {rest : List Char} {option : ValuedOption} {text : String}
      (hletter : place.short? letter = some (.valued option))
      (htext : text.toList = first :: rest) (hfirst : first ≠ '=') :
      SpellsLetters place (letter :: text.toList) [.valued option text] none

/-- The items that a word spells that begins with a hyphen, and the option of which the value is to
follow. -/
inductive SpellsWord (place : Place α) (word : String) : List Item → Option ValuedOption → Prop
  | flag (name : String) {flag : Flag} (hword : word.toList = '-' :: '-' :: name.toList)
      (hname : place.long? name = some (.flag flag)) : SpellsWord place word [.flag flag] none
  | awaits (name : String) {option : ValuedOption}
      (hword : word.toList = '-' :: '-' :: name.toList)
      (hname : place.long? name = some (.valued option)) : SpellsWord place word [] (some option)
  | equals (name : String) {text : String} {option : ValuedOption}
      (hword : word.toList = '-' :: '-' :: (name.toList ++ '=' :: text.toList))
      (hname : place.long? name = some (.valued option)) :
      SpellsWord place word [.valued option text] none
  | letters {letters : List Char} {items : List Item} {awaited : Option ValuedOption}
      (hword : word.toList = '-' :: letters)
      (hletters : SpellsLetters place letters items awaited) : SpellsWord place word items awaited

/-- The items that the words in a place spell. -/
inductive Spells (place : Place α) : List String → List Item → Prop
  | nil : Spells place [] []
  | word {word : String} {words : List String} {items others : List Item}
      (hword : SpellsWord place word items none) (hrest : Spells place words others) :
      Spells place (word :: words) (items ++ others)
  | value {word value : String} {words : List String} {option : ValuedOption}
      {items others : List Item} (hword : SpellsWord place word items (some option))
      (hvalue : Unhyphenated value) (hrest : Spells place words others) :
      Spells place (word :: value :: words) (items ++ .valued option value :: others)
  | identifier {text : String} {words : List String} {others : List Item}
      (htakes : place.takesIdentifiers = true) (htext : Unhyphenated text)
      (hrest : Spells place words others) :
      Spells place (text :: words) (.identifier text :: others)

/-! ## Places -/

/-- Whether names and letters are told apart from hyphens and equals signs, and identifiers are
taken only where nothing is below. -/
structure Place.IsRegular (place : Place α) : Prop where
  name_regular : ∀ name switch, place.long? name = some switch →
    name.toList ≠ [] ∧ '=' ∉ name.toList
  short_hyphen : place.short? '-' = none
  below_hyphenated : ∀ word, ¬Unhyphenated word → place.below? word = none
  nothing_below : place.takesIdentifiers = true →
    place.hasBelow = false ∧ ∀ word, place.below? word = none

/-- Whether an item can be spelled in a place. -/
def Place.Allows (place : Place α) : Item → Prop
  | .valued _ _ => True
  | .flag flag => (∃ name, place.long? name = some (.flag flag)) ∨
      ∃ letter, place.short? letter = some (.flag flag)
  | .identifier _ => place.takesIdentifiers = true

variable {place : Place α}

theorem SpellsLetters.allows {letters : List Char} {items : List Item}
    {awaited : Option ValuedOption} (h : SpellsLetters place letters items awaited) :
    ∀ item ∈ items, place.Allows item := by
  induction h with
  | @flag letter flag hletter =>
      exact List.forall_mem_singleton.mpr (.inr ⟨letter, hletter⟩)
  | @more letter _ flag _ _ hletter _ ih =>
      exact List.forall_mem_cons.mpr ⟨.inr ⟨letter, hletter⟩, ih⟩
  | awaits _ => exact List.forall_mem_nil _
  | equals _ _ | joined _ _ _ => exact List.forall_mem_singleton.mpr trivial

theorem SpellsWord.allows {word : String} {items : List Item} {awaited : Option ValuedOption}
    (h : SpellsWord place word items awaited) : ∀ item ∈ items, place.Allows item := by
  cases h with
  | flag name _ hname => exact List.forall_mem_singleton.mpr (.inl ⟨name, hname⟩)
  | awaits _ _ _ => exact List.forall_mem_nil _
  | equals _ _ _ => exact List.forall_mem_singleton.mpr trivial
  | letters _ hletters => exact hletters.allows

/-- The items that words spell in a place can be spelled there. -/
theorem Spells.allows {words : List String} {items : List Item} (h : Spells place words items) :
    ∀ item ∈ items, place.Allows item := by
  induction h with
  | nil => exact List.forall_mem_nil _
  | word hword _ ih => exact List.forall_mem_append.mpr ⟨hword.allows, ih⟩
  | value hword _ _ ih =>
      exact List.forall_mem_append.mpr ⟨hword.allows, List.forall_mem_cons.mpr ⟨trivial, ih⟩⟩
  | identifier htakes _ _ ih => exact List.forall_mem_cons.mpr ⟨htakes, ih⟩

/-! ## Words -/

theorem ofText_of_unhyphenated {word : String} (h : Unhyphenated word) :
    Token.ofText word = .word word := by
  unfold Unhyphenated at h
  unfold Token.ofText
  split
  next hword => exact absurd (by rw [hword]; rfl) h
  next hword => exact absurd (by rw [hword]; rfl) h
  next hword => exact absurd (by rw [hword]; rfl) h
  next => rfl

theorem ofText_of_letters {word : String} {letter : Char} {letters : List Char}
    (hword : word.toList = '-' :: letter :: letters) (hletter : letter ≠ '-') :
    Token.ofText word = .short (letter :: letters) := by
  unfold Token.ofText
  rw [hword]
  simp [hletter]

theorem ofText_of_long {word name : String} {rest : List Char}
    (hword : word.toList = '-' :: '-' :: (name.toList ++ rest)) (hname : name.toList ≠ []) :
    Token.ofText word = .ofLong (name.toList ++ rest) := by
  obtain ⟨first, others, hfirst⟩ := List.exists_cons_of_ne_nil hname
  unfold Token.ofText
  rw [hword, hfirst]
  rfl

theorem ofText_of_name {word name : String} (hword : word.toList = '-' :: '-' :: name.toList)
    (hname : name.toList ≠ []) (hequals : '=' ∉ name.toList) :
    Token.ofText word = .long name none := by
  have hall : name.toList.takeWhile (· ≠ '=') = name.toList :=
    List.takeWhile_eq_self_iff.mpr fun c hc => decide_eq_true (ne_of_mem_of_not_mem hc hequals)
  rw [← List.append_nil name.toList] at hword
  rw [ofText_of_long hword hname, List.append_nil]
  simp only [Token.ofLong, hall, String.ofList_toList, List.drop_length]

theorem ofText_of_equals {word name text : String}
    (hword : word.toList = '-' :: '-' :: (name.toList ++ '=' :: text.toList))
    (hname : name.toList ≠ []) (hequals : '=' ∉ name.toList) :
    Token.ofText word = .long name (some text) := by
  have hall : (name.toList ++ '=' :: text.toList).takeWhile (· ≠ '=') = name.toList := by
    rw [List.takeWhile_append_of_pos fun c hc => decide_eq_true (ne_of_mem_of_not_mem hc hequals)]
    exact List.append_nil _
  rw [ofText_of_long hword hname]
  simp only [Token.ofLong, hall, String.ofList_toList, List.drop_left]

theorem SpellsLetters.exists_first {letters : List Char} {items : List Item}
    {awaited : Option ValuedOption} (h : SpellsLetters place letters items awaited)
    (hhyphen : place.short? '-' = none) :
    ∃ letter rest, letters = letter :: rest ∧ letter ≠ '-' := by
  have hfirst {letter : Char} {switch : Switch} (hletter : place.short? letter = some switch) :
      letter ≠ '-' := by
    rintro rfl
    exact nomatch hhyphen.symm.trans hletter
  cases h with
  | flag hletter | more hletter _ | awaits hletter | equals _ hletter | joined hletter _ _ =>
      exact ⟨_, _, rfl, hfirst hletter⟩

theorem SpellsWord.hyphenated {word : String} {items : List Item} {awaited : Option ValuedOption}
    (h : SpellsWord place word items awaited) : ¬Unhyphenated word := by
  have hfirst : word.toList.head? = some '-' := by
    cases h with
    | flag _ hword _ | awaits _ hword _ | equals _ hword _ | letters hword _ =>
        rw [hword]
        rfl
  exact not_not_intro hfirst

end StorageSurvey.CommandLine
