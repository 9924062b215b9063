import StorageSurvey.Proofs.CommandLine.Spelling

/-!
# Reading what is spelled

Reading the words in a place takes in the items that they spell, in their order.  The last value may
be pending until the next item is taken in, or until the place ends; what counts is therefore what
is given once it is settled.  Words advance a reading by their items, wherever it is, and words that
follow each other advance it by the items of both.
-/

namespace StorageSurvey.CommandLine

variable {α : Type} {place : Place α}

namespace Reading

/-- What is given once the pending option is taken in. -/
def settled (reading : Reading) : Except Stop Given :=
  Reading.given <$> reading.settle

/-- The reading after some more items, with an option that is pending then. -/
def after (reading : Reading) (items : List Item)
    (pending : Option (ValuedOption × Option String)) : Except Stop Reading := do
  let given ← (← reading.settled).takeAll items
  return ⟨given, pending, false⟩

/-- Whether options can follow and the next word is not the value of one. -/
def IsReady (reading : Reading) : Prop :=
  reading.trailing = false ∧ reading.awaitsValue = false

variable {reading : Reading}

/-! ## Single items -/

theorem settle_of_value (given : Given) (option : ValuedOption) (text : String) :
    settle ⟨given, some (option, some text), false⟩ =
      (⟨·, none, false⟩) <$> given.assign option text := rfl

theorem settled_of_value (given : Given) (option : ValuedOption) (text : String) :
    settled ⟨given, some (option, some text), false⟩ = given.assign option text := by
  rw [settled, settle_of_value]
  cases given.assign option text <;> rfl

theorem settle_bind {β : Type} (hfree : reading.trailing = false)
    (next : Reading → Except Stop β) :
    reading.settle >>= next = reading.settled >>= fun given => next ⟨given, none, false⟩ := by
  obtain ⟨given, pending, trailing⟩ := reading
  cases hfree
  match pending with
  | none => rfl
  | some (option, none) => rfl
  | some (option, some text) =>
      rw [settled_of_value, settle_of_value]
      cases given.assign option text <;> rfl

theorem ask_flag (hfree : reading.trailing = false) (flag : Flag) :
    reading.ask (.flag flag) = reading.after [.flag flag] none := by
  unfold ask after
  simp only [settle_bind hfree, Given.takeAll_singleton]
  rfl

theorem ask_valued (hfree : reading.trailing = false) (option : ValuedOption) :
    reading.ask (.valued option) = reading.after [] (some (option, none)) := by
  unfold ask await after
  simp only [settle_bind hfree]
  rfl

theorem assign_eq (hfree : reading.trailing = false) (option : ValuedOption) (text : String) :
    reading.assign option text = reading.after [.valued option text] none := by
  unfold assign after
  simp only [settle_bind hfree, Given.takeAll_singleton]
  rfl

theorem argument_eq (hfree : reading.trailing = false) (htakes : place.takesIdentifiers = true)
    (text : String) : reading.argument place text = reading.after [.identifier text] none := by
  unfold argument after
  rw [if_pos htakes, settle_bind hfree]
  simp only [Given.takeAll_singleton]
  rfl

theorem after_append (items others : List Item)
    (pending : Option (ValuedOption × Option String)) :
    reading.after (items ++ others) pending =
      reading.after items none >>= (·.after others pending) := by
  unfold after
  simp only [bind_assoc, pure_bind, Given.takeAll_append]
  rfl

theorem after_bind_congr {β : Type} {items : List Item}
    {pending : Option (ValuedOption × Option String)} {next other : Reading → Except Stop β}
    (h : ∀ given, next ⟨given, pending, false⟩ = other ⟨given, pending, false⟩) :
    reading.after items pending >>= next = reading.after items pending >>= other := by
  unfold after
  simp only [bind_assoc, pure_bind, h]

/-! ## Single words -/

theorem letters_of_spells {letters : List Char} {items : List Item}
    {awaited : Option ValuedOption} (h : SpellsLetters place letters items awaited)
    (hfree : reading.trailing = false) :
    reading.letters place letters = reading.after items (awaited.map (·, none)) := by
  induction h generalizing reading with
  | flag hletter =>
      unfold Reading.letters
      simp only [hletter, ask_flag hfree]
      exact bind_pure _
  | @more letter letters flag items awaited hletter _ ih =>
      have hparse : reading.letters place (letter :: letters) =
          reading.after [.flag flag] none >>= (·.letters place letters) := by
        conv_lhs => unfold Reading.letters
        simp only [hletter, ask_flag hfree]
      calc reading.letters place (letter :: letters)
          = reading.after [.flag flag] none >>= (·.letters place letters) := hparse
        _ = reading.after [.flag flag] none >>= (·.after items (awaited.map (·, none))) :=
          after_bind_congr fun _ => ih rfl
        _ = reading.after (.flag flag :: items) (awaited.map (·, none)) :=
          (after_append [.flag flag] items _).symm
  | awaits hletter =>
      unfold Reading.letters
      simp only [hletter, ask_valued hfree]
      exact bind_pure _
  | equals text hletter =>
      unfold Reading.letters
      simp only [hletter, assign_eq hfree, String.ofList_toList]
      rfl
  | @joined letter first rest option text hletter htext hfirst =>
      have hparse : reading.letters place (letter :: first :: rest) =
          reading.assign option (String.ofList (first :: rest)) := by
        unfold Reading.letters
        simp [hletter]
      rw [htext, hparse, ← htext, String.ofList_toList, assign_eq hfree]
      rfl

theorem word_of_long (hfree : reading.trailing = false) {word name : String}
    {value : Option String} (h : Token.ofText word = .long name value) :
    reading.word place word = reading.long place name value := by
  unfold Reading.word
  rw [hfree, h]
  rfl

theorem word_of_short (hfree : reading.trailing = false) {word : String} {letters : List Char}
    (h : Token.ofText word = .short letters) :
    reading.word place word = reading.letters place letters := by
  unfold Reading.word
  rw [hfree, h]
  rfl

theorem word_of_spells (hplace : place.IsRegular) {word : String} {items : List Item}
    {awaited : Option ValuedOption} (h : SpellsWord place word items awaited)
    (hfree : reading.trailing = false) :
    reading.word place word = reading.after items (awaited.map (·, none)) := by
  cases h with
  | flag name htext hname =>
      obtain ⟨hne, hequals⟩ := hplace.name_regular name _ hname
      rw [word_of_long hfree (ofText_of_name htext hne hequals)]
      simp only [long, hname, ask_flag hfree]
      rfl
  | awaits name htext hname =>
      obtain ⟨hne, hequals⟩ := hplace.name_regular name _ hname
      rw [word_of_long hfree (ofText_of_name htext hne hequals)]
      simp only [long, hname, ask_valued hfree]
      rfl
  | equals name htext hname =>
      obtain ⟨hne, hequals⟩ := hplace.name_regular name _ hname
      rw [word_of_long hfree (ofText_of_equals htext hne hequals)]
      simp only [long, hname, assign_eq hfree]
      rfl
  | letters htext hletters =>
      obtain ⟨letter, rest, rfl, hletter⟩ := hletters.exists_first hplace.short_hyphen
      rw [word_of_short hfree (ofText_of_letters htext hletter)]
      exact letters_of_spells hletters hfree

theorem word_of_value {given : Given} {option : ValuedOption} {value : String}
    (hvalue : Unhyphenated value) :
    word place ⟨given, some (option, none), false⟩ value =
      .ok ⟨given, some (option, some value), false⟩ := by
  unfold Reading.word
  rw [ofText_of_unhyphenated hvalue]
  rfl

theorem word_of_identifier (hready : reading.IsReady) (htakes : place.takesIdentifiers = true)
    {text : String} (htext : Unhyphenated text) :
    reading.word place text = reading.after [.identifier text] none := by
  have hargument : reading.word place text = reading.argument place text := by
    obtain ⟨hfree, hawaits⟩ := hready
    unfold Reading.word
    rw [ofText_of_unhyphenated htext, hfree]
    obtain ⟨given, pending, trailing⟩ := reading
    match pending, hawaits with
    | none, _ => rfl
    | some (_, some _), _ => rfl
  rw [hargument, argument_eq hready.1 htakes]

/-! ## Scanning -/

theorem scan_cons_of_ready (hready : reading.IsReady) {word : String}
    (hbelow : place.below? word = none) (hhelp : place.hasBelow = true → word ≠ "help")
    (rest : List String) :
    reading.scan place (word :: rest) = reading.word place word >>= (·.scan place rest) := by
  obtain ⟨hfree, hawaits⟩ := hready
  have hnot : ¬(place.hasBelow = true ∧ word = "help") := fun h => hhelp h.1 h.2
  conv_lhs => unfold Reading.scan
  simp [hfree, hawaits, hbelow, hnot]

/-- A word that spells items does not name anything below. -/
theorem scan_cons_of_spells (hplace : place.IsRegular) {word : String} {items : List Item}
    {awaited : Option ValuedOption} (h : SpellsWord place word items awaited)
    (hready : reading.IsReady) (rest : List String) :
    reading.scan place (word :: rest) =
      reading.after items (awaited.map (·, none)) >>= (·.scan place rest) := by
  have hhelp : word ≠ "help" := by
    rintro rfl
    exact h.hyphenated (by decide)
  rw [scan_cons_of_ready hready (hplace.below_hyphenated word h.hyphenated) (fun _ => hhelp),
    word_of_spells hplace h hready.1]

theorem scan_cons_of_value {given : Given} {option : ValuedOption} {value : String}
    (hvalue : Unhyphenated value) (rest : List String) :
    scan place ⟨given, some (option, none), false⟩ (value :: rest) =
      scan place ⟨given, some (option, some value), false⟩ rest := by
  conv_lhs => unfold Reading.scan
  simp only [awaitsValue, or_true, if_true, word_of_value hvalue]
  rfl

/-- Words advance a reading by some items if, wherever it is, reading the words takes them in, the
last of them once the reading is settled. -/
def Advances (place : Place α) (words : List String) (items : List Item) : Prop :=
  ∀ reading : Reading, reading.IsReady → ∃ result : Except Stop Reading,
    (∀ next, result = .ok next → next.IsReady) ∧
    result >>= settled = reading.settled >>= (·.takeAll items) ∧
    ∀ rest, reading.scan place (words ++ rest) = result >>= (·.scan place rest)

theorem advances_nil : Advances place [] [] := by
  intro reading hready
  refine ⟨.ok reading, ?_, ?_, fun rest => rfl⟩
  · rintro _ ⟨⟩
    exact hready
  · exact (bind_pure reading.settled).symm

theorem Advances.append {words others : List String} {items further : List Item}
    (hfirst : Advances place words items) (hsecond : Advances place others further) :
    Advances place (words ++ others) (items ++ further) := by
  intro reading hready
  obtain ⟨result, hresult, hsettled, hscan⟩ := hfirst reading hready
  cases result with
  | error stop =>
      refine ⟨.error stop, hresult, ?_, fun rest => ?_⟩
      · simp only [Given.takeAll_append, ← bind_assoc, ← hsettled]
        rfl
      · rw [List.append_assoc, hscan]
        rfl
  | ok middle =>
      obtain ⟨result, hlast, hlastSettled, hlastScan⟩ := hsecond middle (hresult middle rfl)
      refine ⟨result, hlast, ?_, fun rest => ?_⟩
      · rw [hlastSettled]
        simp only [Given.takeAll_append, ← bind_assoc, ← hsettled]
        rfl
      · rw [List.append_assoc, hscan]
        exact hlastScan rest

/-- Words advance a reading if scanning them leaves one that is ready, with the last items pending
or none. -/
theorem advances_of_scan {words : List String} {items last : List Item}
    (pending : Option (ValuedOption × Option String))
    (hready : ∀ given, IsReady ⟨given, pending, false⟩)
    (hlast : ∀ given, settled ⟨given, pending, false⟩ = given.takeAll last)
    (hscan : ∀ reading : Reading, reading.IsReady → ∀ rest,
      reading.scan place (words ++ rest) = reading.after items pending >>= (·.scan place rest)) :
    Advances place words (items ++ last) := by
  intro reading hfirst
  refine ⟨reading.after items pending, ?_, ?_, hscan reading hfirst⟩
  · intro next hnext
    obtain ⟨_, -, hnext⟩ := bind_eq_ok_iff.mp hnext
    obtain ⟨given, -, ⟨⟩⟩ := bind_eq_ok_iff.mp hnext
    exact hready given
  · unfold after
    simp only [bind_assoc, pure_bind, Given.takeAll_append, hlast]

theorem advances_word (hplace : place.IsRegular) {word : String} {items : List Item}
    (h : SpellsWord place word items none) : Advances place [word] items := by
  rw [← List.append_nil items]
  refine advances_of_scan none (fun _ => ⟨rfl, rfl⟩) (fun _ => rfl) ?_
  intro reading hready rest
  exact scan_cons_of_spells hplace h hready rest

theorem advances_value (hplace : place.IsRegular) {word value : String} {option : ValuedOption}
    {items : List Item} (h : SpellsWord place word items (some option))
    (hvalue : Unhyphenated value) :
    Advances place [word, value] (items ++ [.valued option value]) := by
  refine advances_of_scan (some (option, some value)) (fun _ => ⟨rfl, rfl⟩) ?_ ?_
  · intro given
    rw [settled_of_value, Given.takeAll_singleton]
    rfl
  · intro reading hready rest
    rw [List.cons_append, scan_cons_of_spells hplace h hready]
    unfold after
    simp only [bind_assoc, pure_bind]
    refine bind_congr fun _ => bind_congr fun given => ?_
    exact scan_cons_of_value hvalue rest

theorem advances_identifier (hplace : place.IsRegular) {text : String}
    (htakes : place.takesIdentifiers = true) (htext : Unhyphenated text) :
    Advances place [text] [.identifier text] := by
  obtain ⟨hnothing, hbelow⟩ := hplace.nothing_below htakes
  rw [← List.append_nil [Item.identifier text]]
  refine advances_of_scan none (fun _ => ⟨rfl, rfl⟩) (fun _ => rfl) ?_
  intro reading hready rest
  have hhelp : place.hasBelow = true → text ≠ "help" := by
    rw [hnothing]
    exact fun h => nomatch h
  rw [List.singleton_append, scan_cons_of_ready hready (hbelow text) hhelp,
    word_of_identifier hready htakes htext]

/-- Words advance a reading by the items that they spell. -/
theorem advances_of_spells (hplace : place.IsRegular) {words : List String} {items : List Item}
    (h : Spells place words items) : Advances place words items := by
  induction h with
  | nil => exact advances_nil
  | word hword _ ih => exact (advances_word hplace hword).append ih
  | @value word value words option items others hword hvalue _ ih =>
      have hboth := (advances_value hplace hword hvalue).append ih
      rwa [List.append_assoc] at hboth
  | identifier htakes htext _ ih => exact (advances_identifier hplace htakes htext).append ih

/-! ## Whole places -/

theorem isReady_start : start.IsReady := ⟨rfl, rfl⟩

/-- Reading goes up to a word that names something below. -/
theorem exists_scan_of_below (hplace : place.IsRegular) {words : List String}
    {items : List Item} (h : Spells place words items) {name : String} {below : α}
    (hbelow : place.below? name = some below) (rest : List String) :
    ∃ result : Except Stop Reading, result >>= settled = Given.nothing.takeAll items ∧
      start.scan place (words ++ name :: rest) = (·, some (below, rest)) <$> result := by
  obtain ⟨result, hready, hsettled, hscan⟩ := advances_of_spells hplace h start isReady_start
  refine ⟨result, hsettled, ?_⟩
  rw [hscan]
  cases result with
  | error stop => rfl
  | ok next =>
      obtain ⟨hfree, hawaits⟩ := hready next rfl
      change next.scan place (name :: rest) = .ok (next, some (below, rest))
      unfold Reading.scan
      simp [hfree, hawaits, hbelow]

theorem exists_scan_to_end (hplace : place.IsRegular) {words : List String} {items : List Item}
    (h : Spells place words items) :
    ∃ result : Except Stop Reading, result >>= settled = Given.nothing.takeAll items ∧
      start.scan place words = (·, none) <$> result := by
  obtain ⟨result, -, hsettled, hscan⟩ := advances_of_spells hplace h start isReady_start
  refine ⟨result, hsettled, ?_⟩
  have hwords := hscan []
  rw [List.append_nil] at hwords
  rw [hwords]
  cases result <;> rfl

end Reading

end StorageSurvey.CommandLine
