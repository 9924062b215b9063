import StorageSurvey.Json.Token
import StorageSurvey.Proofs.Number.Digits

/-!
# How scalars are written

The grammar of texts and numbers, and that a scalar is cut into one token whichever way it is
written.  A character of a text may stand for itself, follow a backslash or be given by its code
units; a number may have a fraction and an exponent.  A token must not run on into what follows it.
Only numbers could, and a value is never followed by a digit, a point or an exponent.
-/

namespace StorageSurvey.Json

open StorageSurvey.Number

/-! ## One token after the other -/

theorem tokens_cons_of_space {c : Char} (h : isSpace c = true) (rest : List Char) :
    tokens (c :: rest) = tokens rest := by
  rw [tokens, tokens, List.dropWhile_cons_of_pos h]

theorem tokens_cons_of_sign {c : Char} (h : isSpace c = false) (rest : List Char) :
    tokens (c :: rest) = (nextToken c rest).1 :: tokens (nextToken c rest).2 := by
  rw [tokens]
  split
  · rename_i heq
    rw [List.dropWhile_cons_of_neg (by simp [h])] at heq
    cases heq
  · rename_i first after heq
    rw [List.dropWhile_cons_of_neg (by simp [h])] at heq
    cases heq
    rfl

theorem tokens_nil : tokens [] = [] := by
  rw [tokens]
  rfl

/-! ## Texts -/

/-- Whether a character can stand for itself between quotes. -/
def isUnescaped (c : Char) : Bool :=
  0x20 ≤ c.toNat && c != '"' && c != '\\'

/-- The ways to write characters between quotes. -/
inductive SpellsText : List Char → List Char → Prop
  | nil : SpellsText [] []
  | char {c : Char} {content written : List Char} (hc : isUnescaped c = true)
      (rest : SpellsText content written) : SpellsText (c :: content) (c :: written)
  | escape {letter c : Char} {content written : List Char} (hletter : escaped? letter = some c)
      (rest : SpellsText content written) :
      SpellsText (c :: content) ('\\' :: letter :: written)
  | unit {a b c d : Char} {code : Nat} {content written : List Char}
      (hcode : codeUnit? a b c d = some code) (hhigh : isHighSurrogate code = false)
      (hlow : isLowSurrogate code = false) (rest : SpellsText content written) :
      SpellsText (Char.ofNat code :: content) ('\\' :: 'u' :: a :: b :: c :: d :: written)
  | pair {a b c d a' b' c' d' : Char} {high low : Nat} {content written : List Char}
      (hcode : codeUnit? a b c d = some high) (hhigh : isHighSurrogate high = true)
      (hcode' : codeUnit? a' b' c' d' = some low) (hlow : isLowSurrogate low = true)
      (rest : SpellsText content written) :
      SpellsText (Char.ofNat (0x10000 + (high - 0xD800) * 0x400 + (low - 0xDC00)) :: content)
        ('\\' :: 'u' :: a :: b :: c :: d :: '\\' :: 'u' :: a' :: b' :: c' :: d' :: written)

/-- Characters that can stand for themselves are written as they are. -/
theorem spellsText_self {text : List Char} (h : text.all isUnescaped = true) :
    SpellsText text text := by
  induction text with
  | nil => exact .nil
  | cons c text ih =>
      obtain ⟨hc, hrest⟩ := Bool.and_eq_true_iff.mp h
      exact .char hc (ih hrest)

/-- A letter after a backslash is one character. -/
theorem textPieces_letter {letter c : Char} (hletter : letter ≠ 'u')
    (hc : escaped? letter = some c) (rest : List Char) :
    textPieces ('\\' :: letter :: rest) =
      (textPieces rest).map fun found => (.char c :: found.1, found.2) := by
  rw [textPieces.eq_def]
  split
  · simp_all
  · simp_all
  · simp_all
  · rename_i heq
    cases heq
    rw [hc]
    cases textPieces rest <;> rfl
  · rename_i heq
    cases heq
    simp_all

theorem textPieces_unit {a b c d : Char} {code : Nat} (hcode : codeUnit? a b c d = some code)
    (rest : List Char) :
    textPieces ('\\' :: 'u' :: a :: b :: c :: d :: rest) =
      (textPieces rest).map fun found => (.unit code :: found.1, found.2) := by
  rw [textPieces, hcode]
  cases textPieces rest <;> rfl

theorem textPieces_char {c : Char} (hquote : c ≠ '"') (hbackslash : c ≠ '\\')
    (hspace : ¬ c.toNat < 0x20) (rest : List Char) :
    textPieces (c :: rest) = (textPieces rest).map fun found => (.char c :: found.1, found.2) := by
  rw [textPieces.eq_def]
  split
  · simp_all
  · simp_all
  · simp_all
  · simp_all
  · rename_i heq
    cases heq
    rw [if_neg hspace]
    cases textPieces rest <;> rfl

/-- What is written up to the closing quote is cut into pieces, which stand for the content. -/
theorem textPieces_of_spells {content written : List Char} (h : SpellsText content written)
    (rest : List Char) :
    ∃ pieces, textPieces (written ++ '"' :: rest) = some (pieces, rest) ∧
      joinPieces pieces = some content := by
  induction h with
  | nil => exact ⟨[], by rw [List.nil_append, textPieces], rfl⟩
  | @char c _ _ hc _ ih =>
      obtain ⟨pieces, hpieces, hjoin⟩ := ih
      refine ⟨.char c :: pieces, ?_, by rw [joinPieces, hjoin]; rfl⟩
      simp only [isUnescaped, Bool.and_eq_true, decide_eq_true_eq, bne_iff_ne] at hc
      obtain ⟨⟨hcontrol, hquote⟩, hbackslash⟩ := hc
      rw [List.cons_append, textPieces_char hquote hbackslash (Nat.not_lt.mpr hcontrol), hpieces]
      rfl
  | @escape letter c _ _ hletter _ ih =>
      obtain ⟨pieces, hpieces, hjoin⟩ := ih
      refine ⟨.char c :: pieces, ?_, by rw [joinPieces, hjoin]; rfl⟩
      have hunit : letter ≠ 'u' := by
        rintro rfl
        cases hletter
      rw [List.cons_append, List.cons_append, textPieces_letter hunit hletter, hpieces]
      rfl
  | @unit _ _ _ _ code _ _ hcode hhigh hlow _ ih =>
      obtain ⟨pieces, hpieces, hjoin⟩ := ih
      refine ⟨.unit code :: pieces, ?_, ?_⟩
      · simp only [List.cons_append]
        rw [textPieces_unit hcode, hpieces]
        rfl
      · rw [joinPieces.eq_def]
        simp [hhigh, hlow, hjoin]
  | @pair _ _ _ _ _ _ _ _ high low _ _ hcode hhigh hcode' hlow _ ih =>
      obtain ⟨pieces, hpieces, hjoin⟩ := ih
      refine ⟨.unit high :: .unit low :: pieces, ?_, ?_⟩
      · simp only [List.cons_append]
        rw [textPieces_unit hcode, textPieces_unit hcode', hpieces]
        rfl
      · rw [joinPieces.eq_def]
        simp [hhigh, hlow, hjoin]

/-! ## Numbers -/

def Digits (digits : List Char) : Prop :=
  digits ≠ [] ∧ ∀ c ∈ digits, c.isDigit = true

/-- The digits before the point: a zero stands alone. -/
def WholeDigits (digits : List Char) : Prop :=
  digits = ['0'] ∨ Digits digits ∧ digits.head? ≠ some '0'

/-- The ways to write the digits after the point. -/
inductive SpellsFraction : List Char → List Char → Prop
  | none : SpellsFraction [] []
  | point {digits : List Char} (hdigits : Digits digits) : SpellsFraction digits ('.' :: digits)

/-- The ways to write an exponent. -/
inductive SpellsExponent : Option (Bool × List Char) → List Char → Prop
  | none : SpellsExponent none []
  | unsigned {e : Char} {digits : List Char} (he : e = 'e' ∨ e = 'E') (hdigits : Digits digits) :
      SpellsExponent (some (false, digits)) (e :: digits)
  | plus {e : Char} {digits : List Char} (he : e = 'e' ∨ e = 'E') (hdigits : Digits digits) :
      SpellsExponent (some (false, digits)) (e :: '+' :: digits)
  | minus {e : Char} {digits : List Char} (he : e = 'e' ∨ e = 'E') (hdigits : Digits digits) :
      SpellsExponent (some (true, digits)) (e :: '-' :: digits)

/-- The ways to write a number. -/
inductive SpellsNumber : NumberLiteral → List Char → Prop
  | unsigned {whole fraction point scale : List Char} {exponent : Option (Bool × List Char)}
      (hwhole : WholeDigits whole) (hfraction : SpellsFraction fraction point)
      (hexponent : SpellsExponent exponent scale) :
      SpellsNumber ⟨false, whole, fraction, exponent⟩ (whole ++ (point ++ scale))
  | minus {whole fraction point scale : List Char} {exponent : Option (Bool × List Char)}
      (hwhole : WholeDigits whole) (hfraction : SpellsFraction fraction point)
      (hexponent : SpellsExponent exponent scale) :
      SpellsNumber ⟨true, whole, fraction, exponent⟩ ('-' :: (whole ++ (point ++ scale)))

theorem WholeDigits.digits {digits : List Char} (h : WholeDigits digits) : Digits digits := by
  rcases h with rfl | ⟨hdigits, -⟩
  · refine ⟨List.cons_ne_nil _ _, fun c hc => ?_⟩
    rw [List.mem_singleton.mp hc]
    rfl
  · exact hdigits

/-- Whether a number cannot go on with a text. -/
def EndsNumber (rest : List Char) : Prop :=
  ∀ c ∈ rest.head?, c.isDigit = false ∧ c ≠ '.' ∧ c ≠ 'e' ∧ c ≠ 'E'

theorem EndsNumber.head?_any {rest : List Char} (h : EndsNumber rest) :
    rest.head?.any Char.isDigit = false := by
  cases hhead : rest.head? with
  | none => rfl
  | some c => exact (h c hhead).1

theorem endsNumber_sign {c : Char}
    (h : (c.isDigit || c == '.' || c == 'e' || c == 'E') = false) (rest : List Char) :
    EndsNumber (c :: rest) := by
  intro c' hc'
  cases hc'
  simpa [and_assoc] using h

theorem digits?_append {digits rest : List Char} (hdigits : ∀ c ∈ digits, c.isDigit = true)
    (hne : digits ≠ []) (hrest : rest.head?.any Char.isDigit = false) :
    digits? (digits ++ rest) = some (digits, rest) := by
  rw [digits?, takeWhile_append_of_head hdigits hrest, dropWhile_append_of_head hdigits hrest]
  simp [hne]

theorem wholeDigits?_append {digits rest : List Char} (h : WholeDigits digits)
    (hrest : rest.head?.any Char.isDigit = false) :
    wholeDigits? (digits ++ rest) = some (digits, rest) := by
  rcases h with rfl | ⟨⟨hne, hdigits⟩, hhead⟩
  · cases rest with
    | nil => rfl
    | cons c rest =>
        have hc : c.isDigit = false := by simpa using hrest
        simp [wholeDigits?, hc]
  · have htaken := digits?_append hdigits hne hrest
    cases digits with
    | nil => exact absurd rfl hne
    | cons c digits =>
        rw [List.cons_append] at htaken ⊢
        rw [wholeDigits?.eq_def]
        split
        · simp_all
        · exact htaken

/-- An exponent begins with a letter, and what follows it is no digit. -/
theorem exponent?_append {exponent : Option (Bool × List Char)} {scale rest : List Char}
    (h : SpellsExponent exponent scale) (hrest : EndsNumber rest) :
    exponent? (scale ++ rest) = some (exponent, rest) := by
  cases h with
  | none =>
      cases rest with
      | nil => rfl
      | cons c rest =>
          have hc := (hrest c rfl).2.2
          simp [exponent?, hc.1, hc.2]
  | unsigned he hdigits =>
      have htaken := digits?_append hdigits.2 hdigits.1 hrest.head?_any
      obtain ⟨c, others, rfl⟩ := List.exists_cons_of_ne_nil hdigits.1
      have hc : c.isDigit = true := hdigits.2 c List.mem_cons_self
      rw [List.cons_append, exponent?, if_pos he]
      · rw [htaken]
        rfl
      -- a digit is no sign
      · intro _ heq
        cases heq
        cases hc
      · intro _ heq
        cases heq
        cases hc
  | plus he hdigits =>
      have htaken := digits?_append hdigits.2 hdigits.1 hrest.head?_any
      simp [exponent?, he, htaken]
  | minus he hdigits =>
      have htaken := digits?_append hdigits.2 hdigits.1 hrest.head?_any
      simp [exponent?, he, htaken]

/-- Neither a digit nor a point can come after a number but before its exponent. -/
theorem head?_of_spells {exponent : Option (Bool × List Char)} {scale rest : List Char}
    (h : SpellsExponent exponent scale) (hrest : EndsNumber rest) :
    ∀ c ∈ (scale ++ rest).head?, c.isDigit = false ∧ c ≠ '.' := by
  intro c hc
  cases h with
  | none => exact ⟨(hrest c hc).1, (hrest c hc).2.1⟩
  | unsigned he _ | plus he _ | minus he _ =>
      cases hc
      rcases he with rfl | rfl <;> decide

theorem number?_append (negative : Bool) {whole fraction point scale rest : List Char}
    {exponent : Option (Bool × List Char)} (hwhole : WholeDigits whole)
    (hfraction : SpellsFraction fraction point) (hexponent : SpellsExponent exponent scale)
    (hrest : EndsNumber rest) :
    number? negative (whole ++ (point ++ scale) ++ rest) =
      some (⟨negative, whole, fraction, exponent⟩, rest) := by
  have hhead := head?_of_spells hexponent hrest
  have hscale : (scale ++ rest).head?.any Char.isDigit = false :=
    (Option.any_eq_false_iff_get ..).mpr fun _ => (hhead _ (Option.get_mem _)).1
  have htaken := exponent?_append hexponent hrest
  rw [List.append_assoc, List.append_assoc]
  cases hfraction with
  | none =>
      have hpoint : fractionDigits? (scale ++ rest) = some ([], scale ++ rest) := by
        rw [fractionDigits?.eq_def]
        split
        · rename_i heq
          rw [heq] at hhead
          exact absurd rfl (hhead '.' rfl).2
        · rfl
      rw [List.nil_append]
      simp [number?, wholeDigits?_append hwhole hscale, hpoint, htaken]
  | point hdigits =>
      have hpoint := digits?_append hdigits.2 hdigits.1 hscale
      have hpoint' : ('.' :: (fraction ++ (scale ++ rest))).head?.any Char.isDigit = false := rfl
      rw [List.cons_append]
      simp [number?, wholeDigits?_append hwhole hpoint', fractionDigits?, hpoint, htaken]

/-! ## One token for each scalar -/

/-- What begins a scalar is neither a blank nor a sign. -/
theorem tokens_of_scalar? {first : Char} {others rest : List Char} {scalar : Scalar}
    (h : scalar? first others = some (scalar, rest)) :
    tokens (first :: others) = .scalar scalar :: tokens rest := by
  have hspace : isSpace first = false := by
    cases hspace : isSpace first with
    | false => rfl
    | true =>
        simp only [isSpace, Bool.or_eq_true, beq_iff_eq] at hspace
        rcases hspace with ((rfl | rfl) | rfl) | rfl <;> cases h
  have hnext : nextToken first others = (.scalar scalar, rest) := by
    rw [nextToken.eq_def]
    split <;> first | cases h | rw [h]
  rw [tokens_cons_of_sign hspace, hnext]

theorem tokens_of_spellsText {content written : List Char} (h : SpellsText content written)
    (rest : List Char) :
    tokens ('"' :: (written ++ '"' :: rest)) =
      .scalar (.text (some (String.ofList content))) :: tokens rest := by
  obtain ⟨pieces, hpieces, hjoin⟩ := textPieces_of_spells h rest
  refine tokens_of_scalar? ?_
  simp [scalar?, hpieces, hjoin]

theorem tokens_of_spellsNumber {literal : NumberLiteral} {text rest : List Char}
    (h : SpellsNumber literal text) (hrest : EndsNumber rest) :
    tokens (text ++ rest) = .scalar (.number literal) :: tokens rest := by
  cases h with
  | minus hwhole hfraction hexponent =>
      have hnumber := number?_append true hwhole hfraction hexponent hrest
      rw [List.cons_append]
      refine tokens_of_scalar? ?_
      simp only [scalar?, hnumber, Option.map_some]
  | @unsigned whole _ _ _ _ hwhole hfraction hexponent =>
      have hnumber := number?_append false hwhole hfraction hexponent hrest
      obtain ⟨hne, hdigits⟩ := hwhole.digits
      cases whole with
      | nil => exact absurd rfl hne
      | cons c whole =>
          have hc : c.isDigit = true := hdigits c List.mem_cons_self
          simp only [List.cons_append] at hnumber ⊢
          refine tokens_of_scalar? ?_
          rw [scalar?.eq_def]
          -- a digit begins neither a word nor a text, and it is no minus
          split <;> first | exact absurd hc (by decide) | skip
          rw [if_pos hc, hnumber, Option.map_some]

end StorageSurvey.Json
