import StorageSurvey.Yaml.Layout
import StorageSurvey.Yaml.Printer

/-!
# Characters that are written

Whatever a text holds, only printable characters are written for it.  Such characters pass the
preparation of a text unchanged, and of them only spaces and line ends are gaps for the reader.
-/

namespace StorageSurvey.Yaml

/-! ## Classes of characters -/

theorem isAllowed_of_isPrintable {c : Char} (h : isPrintable c = true) : isAllowed c = true := by
  simp only [isPrintable, Bool.or_eq_true, Bool.and_eq_true, beq_iff_eq, decide_eq_true_eq,
    bne_iff_ne] at h
  simp only [isAllowed, Bool.or_eq_true, Bool.and_eq_true, beq_iff_eq, decide_eq_true_eq]
  omega

theorem ne_of_isPrintable {c d : Char} (hc : isPrintable c = true) (hd : isPrintable d = false) :
    c ≠ d := by
  rintro rfl
  rw [hc] at hd
  cases hd

theorem isBlank_of_isPrintable {c : Char} (h : isPrintable c = true) :
    isBlank c = (c == ' ') := by
  have : c ≠ '\t' := ne_of_isPrintable h rfl
  simp [isBlank, this]

/-- The line ends of the writer that the reader does not know are not printable. -/
theorem isBreak_of_isPrintable {c : Char} (h : isPrintable c = true) :
    isBreak c = endsLine c := by
  have hreturn : (c == '\r') = false := beq_false_of_ne (ne_of_isPrintable h rfl)
  have hnextLine : (c == '\u0085') = false := beq_false_of_ne (ne_of_isPrintable h rfl)
  simp only [isBreak, isSeparator, endsLine, hreturn, hnextLine, Bool.or_false, Bool.or_assoc]

theorem isGap_of_isPrintable {c : Char} (h : isPrintable c = true) :
    isGap c = (c == ' ' || endsLine c) := by
  rw [isGap, isBlank_of_isPrintable h, isBreak_of_isPrintable h]

theorem isGap_of_isBreak {c : Char} (h : isBreak c = true) : isGap c = true := by
  rw [isGap, h, Bool.or_true]

theorem isBreak_of_isGap {c : Char} (h : isGap c = false) : isBreak c = false := by
  rw [isGap, Bool.or_eq_false_iff] at h
  exact h.2

theorem isBreak_of_endsLine {c : Char} (hprint : isPrintable c = true)
    (h : endsLine c = true) : isBreak c = true := by
  rw [isBreak_of_isPrintable hprint, h]

/-- Whether a character is printed within a line. -/
def isInline (c : Char) : Bool :=
  isPrintable c && !endsLine c

theorem isPrintable_of_isInline {c : Char} (h : isInline c = true) : isPrintable c = true := by
  rw [isInline, Bool.and_eq_true] at h
  exact h.1

theorem isBreak_of_isInline {c : Char} (h : isInline c = true) : isBreak c = false := by
  rw [isInline, Bool.and_eq_true, Bool.not_eq_true'] at h
  rw [isBreak_of_isPrintable h.1, h.2]

theorem isGap_of_isInline {c : Char} (h : isInline c = true) : isGap c = (c == ' ') := by
  rw [isGap, isBreak_of_isInline h, isBlank_of_isPrintable (isPrintable_of_isInline h),
    Bool.or_false]

/-! ## Spaces beside line ends -/

theorem hasSpaceAfterBreak_cons {c : Char} {rest : List Char}
    (h : hasSpaceAfterBreak (c :: rest) = false) :
    hasSpaceAfterBreak rest = false ∧ (endsLine c = true → rest.head? ≠ some ' ') := by
  unfold hasSpaceAfterBreak at h
  split at h
  case h_1 heq =>
    cases heq
    rw [Bool.or_eq_false_iff] at h
    exact ⟨h.2, fun hc => by simp [hc] at h⟩
  case h_2 hnot heq =>
    cases heq
    refine ⟨h, fun _ hhead => ?_⟩
    obtain ⟨after, rfl⟩ := List.head?_eq_some_iff.mp hhead
    exact hnot after rfl
  case h_3 heq => cases heq

theorem hasSpaceBeforeBreak_cons {c : Char} {rest : List Char}
    (h : hasSpaceBeforeBreak (c :: rest) = false) :
    hasSpaceBeforeBreak rest = false ∧
      (c = ' ' → ∀ d, rest.head? = some d → endsLine d = false) := by
  unfold hasSpaceBeforeBreak at h
  split at h
  case h_1 heq =>
    cases heq
    rw [Bool.or_eq_false_iff] at h
    refine ⟨h.2, fun _ d hd => ?_⟩
    rw [List.head?_cons, Option.some.injEq] at hd
    rw [← hd]
    exact h.1
  case h_2 hnot heq =>
    cases heq
    refine ⟨h, fun hc d hd => ?_⟩
    obtain ⟨after, rfl⟩ := List.head?_eq_some_iff.mp hd
    exact absurd rfl (hnot d after hc)
  case h_3 heq => cases heq

/-! ## Prepared texts -/

theorem unifyBreaks_of_isPrintable {text : List Char} (h : ∀ c ∈ text, isPrintable c = true) :
    unifyBreaks text = text := by
  induction text with
  | nil => rfl
  | cons c rest ih =>
      have hreturn : c ≠ '\r' := ne_of_isPrintable (h c List.mem_cons_self) rfl
      have hnextLine : c ≠ '\u0085' := ne_of_isPrintable (h c List.mem_cons_self) rfl
      rw [unifyBreaks, ih fun c hc => h c (List.mem_cons_of_mem _ hc)]
      · simp [hreturn, hnextLine]
      · intro rest hc
        exact absurd hc hreturn

/-- A printable text is read as it is. -/
theorem prepare?_of_isPrintable {text : List Char} (h : ∀ c ∈ text, isPrintable c = true) :
    prepare? text = some text := by
  have hallowed : text.all isAllowed = true := by
    rw [List.all_eq_true]
    exact fun c hc => isAllowed_of_isPrintable (h c hc)
  cases text with
  | nil => rfl
  | cons c rest =>
      have hmark : c ≠ byteOrderMark := ne_of_isPrintable (h c List.mem_cons_self) rfl
      rw [prepare?.eq_def, if_pos hallowed]
      simp only [hmark, if_false, unifyBreaks_of_isPrintable h]

/-! ## Places -/

theorem spaces_succ (n : Nat) : spaces (n + 1) = ' ' :: spaces n := rfl

namespace Mark

/-- The place after a text. -/
def after (mark : Mark) (text : List Char) : Mark :=
  text.foldl past mark

@[simp] theorem after_nil (mark : Mark) : mark.after [] = mark := rfl

@[simp] theorem after_cons (mark : Mark) (c : Char) (text : List Char) :
    mark.after (c :: text) = (mark.past c).after text := rfl

theorem after_append (mark : Mark) (text rest : List Char) :
    mark.after (text ++ rest) = (mark.after text).after rest :=
  List.foldl_append

theorem past_of_not_isBreak (mark : Mark) {c : Char} (h : isBreak c = false) :
    mark.past c = mark.ahead 1 := by
  simp [past, ahead, h]

theorem past_of_isBreak (mark : Mark) {c : Char} (h : isBreak c = true) :
    mark.past c = ⟨mark.line + 1, 0⟩ := by
  simp [past, h]

theorem ahead_ahead (mark : Mark) (m n : Nat) : (mark.ahead m).ahead n = mark.ahead (m + n) := by
  simp [ahead, Nat.add_assoc]

/-- On a line that has just begun, the column counts the characters. -/
theorem column_ahead {mark : Mark} (h : mark.column = 0) (n : Nat) :
    (mark.ahead n).column = n := by
  rw [ahead, h, Nat.zero_add]

/-- On one line every character takes one column. -/
theorem after_eq_ahead (mark : Mark) {text : List Char} (h : ∀ c ∈ text, isBreak c = false) :
    mark.after text = mark.ahead text.length := by
  induction text generalizing mark with
  | nil => rfl
  | cons c rest ih =>
      rw [after_cons, past_of_not_isBreak mark (h c List.mem_cons_self),
        ih _ fun c hc => h c (List.mem_cons_of_mem _ hc), ahead_ahead, List.length_cons,
        Nat.add_comm]

theorem after_spaces (mark : Mark) (n : Nat) : mark.after (spaces n) = mark.ahead n := by
  rw [after_eq_ahead, spaces, List.length_replicate]
  intro c hc
  rw [spaces] at hc
  rw [List.eq_of_mem_replicate hc]
  rfl

end Mark

/-! ## Written texts -/

theorem isPrintable_spaces {n : Nat} : ∀ c ∈ spaces n, isPrintable c = true := by
  intro c hc
  rw [spaces] at hc
  rw [List.eq_of_mem_replicate hc]
  rfl

theorem isInline_upperHexDigit : ∀ n < 16, isInline (upperHexDigit n) = true := by
  decide

theorem isInline_hexDigits (width n : Nat) : ∀ c ∈ hexDigits width n, isInline c = true := by
  induction width generalizing n with
  | zero => simp [hexDigits]
  | succ width ih =>
      intro c hc
      rw [hexDigits, List.mem_append, List.mem_singleton] at hc
      rcases hc with hc | rfl
      · exact ih _ c hc
      · exact isInline_upperHexDigit _ (Nat.mod_lt _ (by decide))

theorem isInline_escapeLetter? {c letter : Char} (h : escapeLetter? c = some letter) :
    isInline letter = true := by
  unfold escapeLetter? at h
  split at h <;> first | (cases h; rfl) | cases h

theorem isInline_doubleQuotedChar (c : Char) :
    ∀ d ∈ doubleQuotedChar c, isInline d = true := by
  intro d hd
  rw [doubleQuotedChar] at hd
  have hhex : ∀ {sign : Char} {width : Nat}, isInline sign = true →
      d ∈ '\\' :: sign :: hexDigits width c.toNat → isInline d = true := by
    intro sign width hsign hd
    rw [List.mem_cons, List.mem_cons] at hd
    rcases hd with rfl | rfl | hd
    · rfl
    · exact hsign
    · exact isInline_hexDigits _ _ d hd
  split at hd
  case isTrue h =>
    rw [List.mem_singleton] at hd
    simp [hd, isInline, h.1, h.2.1]
  case isFalse =>
    split at hd
    case h_1 letter hletter =>
      rw [List.mem_cons, List.mem_singleton] at hd
      rcases hd with rfl | rfl
      · rfl
      · exact isInline_escapeLetter? hletter
    case h_2 =>
      split at hd
      · exact hhex rfl hd
      · split at hd
        · exact hhex rfl hd
        · exact hhex rfl hd

theorem isInline_doubleQuoted (text : List Char) :
    ∀ c ∈ doubleQuoted text, isInline c = true := by
  intro c hc
  simp only [doubleQuoted, List.cons_append, List.mem_cons, List.mem_append, List.mem_flatMap,
    List.not_mem_nil, or_false] at hc
  rcases hc with rfl | ⟨d, -, hc⟩ | rfl
  · rfl
  · exact isInline_doubleQuotedChar d c hc
  · rfl

/-- Between single quotes there is nothing but the text, quotes and indentation. -/
theorem eq_or_mem_of_mem_singleQuotedBody {indent : Nat} {atLineStart : Bool} {text : List Char}
    {c : Char} (h : c ∈ singleQuotedBody indent atLineStart text) :
    (c = ' ' ∨ c = '\'') ∨ c ∈ text := by
  have hindent : ∀ {atLineStart : Bool}, c ∈ (if atLineStart then spaces indent else []) →
      c = ' ' := by
    intro atLineStart hc
    split at hc
    · exact List.eq_of_mem_replicate hc
    · cases hc
  induction text generalizing atLineStart with
  | nil => exact Or.inl (Or.inl (hindent h))
  | cons first rest ih =>
      rw [singleQuotedBody] at h
      split at h
      · rcases List.mem_cons.mp h with rfl | h
        · exact Or.inr List.mem_cons_self
        · exact (ih h).imp_right (List.mem_cons_of_mem _)
      · simp only [List.mem_append] at h
        rcases h with (h | h) | h
        · exact Or.inl (Or.inl (hindent h))
        · split at h
          · exact Or.inl (Or.inr (by simpa using h))
          · rw [List.mem_singleton.mp h]
            exact Or.inr List.mem_cons_self
        · exact (ih h).imp_right (List.mem_cons_of_mem _)

theorem isPrintable_singleQuotedBody (indent : Nat) {atLineStart : Bool} {text : List Char}
    (h : ∀ c ∈ text, isPrintable c = true) :
    ∀ c ∈ singleQuotedBody indent atLineStart text, isPrintable c = true := by
  intro c hc
  rcases eq_or_mem_of_mem_singleQuotedBody hc with (rfl | rfl) | hc
  · rfl
  · rfl
  · exact h c hc

/-- In the lines of a literal block there is nothing but the text, the end of its last line and
indentation. -/
theorem eq_or_mem_of_mem_literalBody {indent : Nat} {atLineStart : Bool} {text : List Char}
    {c : Char} (h : c ∈ literalBody indent atLineStart text) :
    (c = ' ' ∨ c = '\n') ∨ c ∈ text := by
  induction text generalizing atLineStart with
  | nil =>
      rw [literalBody] at h
      split at h
      · cases h
      · exact Or.inl (Or.inr (List.mem_singleton.mp h))
  | cons first rest ih =>
      rw [literalBody] at h
      split at h
      · rcases List.mem_cons.mp h with rfl | h
        · exact Or.inr List.mem_cons_self
        · exact (ih h).imp_right (List.mem_cons_of_mem _)
      · simp only [List.mem_append, List.mem_cons] at h
        rcases h with h | rfl | h
        · split at h
          · exact Or.inl (Or.inl (List.eq_of_mem_replicate h))
          · cases h
        · exact Or.inr List.mem_cons_self
        · exact (ih h).imp_right (List.mem_cons_of_mem _)

theorem isPrintable_literalBody (indent : Nat) {atLineStart : Bool} {text : List Char}
    (h : ∀ c ∈ text, isPrintable c = true) :
    ∀ c ∈ literalBody indent atLineStart text, isPrintable c = true := by
  intro c hc
  rcases eq_or_mem_of_mem_literalBody hc with (rfl | rfl) | hc
  · rfl
  · rfl
  · exact h c hc

end StorageSurvey.Yaml
