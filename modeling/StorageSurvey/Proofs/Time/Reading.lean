import StorageSurvey.Proofs.Number.Digits
import StorageSurvey.Time.Reader

/-!
# Written instants are read back

The reader of time stamps allows much that is never written, so each of its steps is shown on the
one form that the writer has for a field: digits that are followed by a sign.  The whole reader is
then run over the whole text.  Every instant that there is comes back, also before the year 0 and
after the year 9999, within a leap second, and with any fraction of a second.
-/

namespace StorageSurvey.Time

open StorageSurvey.Number

namespace Reader

/-! ## Steps -/

/-- Once the first step is known, a run goes on with the rest of the text. -/
theorem run_bind_of {α β : Type} {step : Step α} {next : α → Step β} {text rest : List Char}
    {value : α} (h : step.run text = pure (value, rest)) :
    (step >>= next).run text = (next value).run rest := by
  rw [StateT.run_bind, h, pure_bind]

theorem trimStart_of_head {text : List Char} (h : text.head?.any Text.isBlank = false) :
    Text.trimStart text = text := by
  cases text with
  | nil => rfl
  | cons c rest =>
      have hc : Text.isBlank c = false := by simpa using h
      exact List.dropWhile_cons_of_neg (by simp [hc])

theorem isBlank_of_isDigit {c : Char} (h : c.isDigit = true) : Text.isBlank c = false := by
  have hc : 48 ≤ c.toNat ∧ c.toNat ≤ 57 := by
    simp only [Char.isDigit, Bool.and_eq_true, decide_eq_true_eq, ge_iff_le,
      UInt32.le_iff_toNat_le] at h
    exact h
  simp only [Text.isBlank, Bool.or_eq_false_iff, Bool.and_eq_false_iff, beq_eq_false_iff_ne,
    decide_eq_false_iff_not]
  omega

theorem skipBlanks_run {text : List Char} (h : text.head?.any Text.isBlank = false) :
    skipBlanks.run text = pure ((), text) := by
  rw [show skipBlanks.run text = pure ((), Text.trimStart text) from rfl, trimStart_of_head h]

theorem literal_run (wanted : Char) (rest : List Char) :
    (literal wanted).run (wanted :: rest) = pure ((), rest) := by
  simp [literal]

theorem separator_run (rest : List Char) : separator.run ('T' :: rest) = pure ((), rest) := rfl

/-! ## Digits -/

/-- The part of a text in which digits are looked for. -/
def window (limit : Option Nat) (text : List Char) : List Char :=
  match limit with
  | some n => text.take n
  | none => text

theorem takeWhile_window {limit : Option Nat} {taken rest : List Char}
    (hdigits : ∀ c ∈ taken, c.isDigit = true)
    (hlimit : ∀ n, limit = some n → taken.length ≤ n)
    (hrest : rest.head?.any Char.isDigit = false) :
    (window limit (taken ++ rest)).takeWhile Char.isDigit = taken := by
  cases limit with
  | none => exact takeWhile_append_of_head hdigits hrest
  | some n =>
      rw [window, List.take_append, List.take_of_length_le (hlimit n rfl)]
      refine takeWhile_append_of_head hdigits ?_
      cases rest with
      | nil => simp
      | cons c rest => cases n - taken.length <;> simp_all

theorem digits_run {limit : Option Nat} {taken rest : List Char}
    (hdigits : ∀ c ∈ taken, c.isDigit = true) (hne : taken ≠ [])
    (hlimit : ∀ n, limit = some n → taken.length ≤ n)
    (hrest : rest.head?.any Char.isDigit = false)
    (hvalue : Nat.ofDigitChars 10 taken 0 ≤ maxAccumulated) :
    (digits limit).run (taken ++ rest) = pure (taken, rest) := by
  have hwindow := takeWhile_window hdigits hlimit hrest
  obtain ⟨c, others, rfl⟩ := List.exists_cons_of_ne_nil hne
  cases limit <;>
    · simp only [window, List.cons_append] at hwindow ⊢
      simp [digits, hwindow, hvalue]

/-- A padded natural is read as a whole where a sign follows it. -/
theorem natural_run {limit : Option Nat} {width n : Nat} {rest : List Char}
    (hlimit : ∀ k, limit = some k → (paddedDigits width n).length ≤ k)
    (hrest : rest.head?.any Char.isDigit = false) (hn : n ≤ maxAccumulated) :
    (natural limit).run (paddedDigits width n ++ rest) = pure (n, rest) := by
  unfold natural
  rw [run_bind_of (digits_run (fun _ hc => isDigit_of_mem_paddedDigits hc)
    (paddedDigits_ne_nil width n) hlimit hrest (by simpa using hn))]
  rw [ofDigitChars_paddedDigits]
  rfl

theorem head?_paddedDigits_append (width n : Nat) (rest : List Char) :
    (paddedDigits width n ++ rest).head?.any Text.isBlank = false := by
  obtain ⟨c, others, hdigits⟩ := List.exists_cons_of_ne_nil (paddedDigits_ne_nil width n)
  have hmem : c ∈ paddedDigits width n := hdigits ▸ List.mem_cons_self
  rw [hdigits, List.cons_append, List.head?_cons, Option.any_some]
  exact isBlank_of_isDigit (isDigit_of_mem_paddedDigits hmem)

/-- A field of two digits is read where a sign follows it. -/
theorem field_run {low high value : Nat} {rest : List Char} (hlow : low ≤ value)
    (hhigh : value ≤ high) (hvalue : value < 100) (hrest : rest.head?.any Char.isDigit = false) :
    (field low high).run (paddedDigits 2 value ++ rest) = pure (value, rest) := by
  have hlength : (paddedDigits 2 value).length = 2 := length_paddedDigits (by decide) hvalue
  have hsmall : value ≤ maxAccumulated := by
    have : maxAccumulated = 2 ^ 63 - 1 := rfl
    omega
  unfold field
  rw [run_bind_of (skipBlanks_run (head?_paddedDigits_append 2 value rest)),
    run_bind_of (natural_run (fun k hk => by cases hk; omega) hrest hsmall)]
  simp only [hlow, hhigh, and_self, if_true]
  rfl

/-! ## The fields of a written instant -/

theorem run_if_inRange {value bound : Int} (h : -bound ≤ value ∧ value < bound)
    (rest : List Char) :
    StateT.run (if -bound ≤ value ∧ value < bound then (return value : Step Int)
      else fail .outOfRange) rest = pure (value, rest) := by
  rw [if_pos h]
  rfl

section Years

variable {value : Int} {rest : List Char} (hlow : Date.minYear ≤ value)
  (hhigh : value ≤ Date.maxYear)

include hlow hhigh

theorem year_inRange : -Nat.pow 2 31 ≤ value ∧ value < Nat.pow 2 31 := by
  have hmin : Date.minYear = -262143 := rfl
  have hmax : Date.maxYear = 262142 := rfl
  have hpower : ((Nat.pow 2 31 : Nat) : Int) = 2147483648 := rfl
  omega

theorem natAbs_year_le : value.natAbs ≤ maxAccumulated := by
  have hmin : Date.minYear = -262143 := rfl
  have hmax : Date.maxYear = 262142 := rfl
  have : maxAccumulated = 2 ^ 63 - 1 := rfl
  omega

variable (hrest : rest.head?.any Char.isDigit = false)

include hrest

/-- A year with a sign is read with all its digits. -/
theorem year_run_signed {sign : Char}
    (hsign : sign = '-' ∧ value ≤ 0 ∨ sign = '+' ∧ 0 ≤ value) :
    year.run (sign :: (paddedDigits 4 value.natAbs ++ rest)) = pure (value, rest) := by
  have hrange := year_inRange hlow hhigh
  have hdigits : (natural none).run (paddedDigits 4 value.natAbs ++ rest) =
      pure (value.natAbs, rest) := natural_run nofun hrest (natAbs_year_le hlow hhigh)
  unfold year
  -- The bound is a name from here on, since the power is costly to compare.
  generalize ((Nat.pow 2 31 : Nat) : Int) = bound at hrange ⊢
  have hvalue : sign = '-' ∧ -((value.natAbs : Nat) : Int) = value ∨
      sign = '+' ∧ ((value.natAbs : Nat) : Int) = value :=
    hsign.imp (And.imp_right (by omega)) (And.imp_right (by omega))
  rcases hvalue with ⟨rfl, hvalue⟩ | ⟨rfl, hvalue⟩
  all_goals
    rw [run_bind_of (skipBlanks_run rfl), StateT.run_bind, StateT.run_get, pure_bind]
    simp only []
    rw [StateT.run_bind, StateT.run_set, pure_bind, run_bind_of hdigits, pure_bind, hvalue]
    exact run_if_inRange hrange rest

/-- A year of four digits is read without a sign. -/
theorem year_run_unsigned (hpos : 0 ≤ value) (hshort : value ≤ 9999) :
    year.run (paddedDigits 4 value.natAbs ++ rest) = pure (value, rest) := by
  have hrange := year_inRange hlow hhigh
  have hvalue : ((value.natAbs : Nat) : Int) = value := by omega
  have hlength : (paddedDigits 4 value.natAbs).length = 4 :=
    length_paddedDigits (by decide) (by omega)
  have hread : (natural (some 4)).run (paddedDigits 4 value.natAbs ++ rest) =
      pure (value.natAbs, rest) :=
    natural_run (fun k hk => by cases hk; omega) hrest (natAbs_year_le hlow hhigh)
  obtain ⟨c, others, hdigits⟩ := List.exists_cons_of_ne_nil
    (paddedDigits_ne_nil 4 value.natAbs)
  have hmem : c ∈ paddedDigits 4 value.natAbs := hdigits ▸ List.mem_cons_self
  have hc : c.isDigit = true := isDigit_of_mem_paddedDigits hmem
  unfold year
  generalize ((Nat.pow 2 31 : Nat) : Int) = bound at hrange ⊢
  rw [run_bind_of (skipBlanks_run (head?_paddedDigits_append 4 value.natAbs rest)),
    StateT.run_bind, StateT.run_get, pure_bind]
  rw [hdigits, List.cons_append] at hread ⊢
  -- a digit is no sign, so the last alternative is taken
  have hminus : c ≠ '-' := by rintro rfl; exact absurd hc (by decide)
  have hplus : c ≠ '+' := by rintro rfl; exact absurd hc (by decide)
  split
  · simp_all
  · simp_all
  rw [run_bind_of hread, pure_bind, hvalue]
  exact run_if_inRange hrange rest

/-- A year is read back, with the sign that it may need. -/
theorem year_run : year.run (Instant.yearText value ++ rest) = pure (value, rest) := by
  rw [Instant.yearText]
  split
  · exact year_run_signed hlow hhigh hrest (Or.inl ⟨rfl, by omega⟩)
  split
  · exact year_run_signed hlow hhigh hrest (Or.inr ⟨rfl, by omega⟩)
  · exact year_run_unsigned hlow hhigh hrest (by omega) (by omega)

end Years

/-- The digits of a fraction of a second, up to the offset. -/
theorem fraction_run_digits (width : Nat) {nanosecond : Nat} (hpos : 0 < width) (hwidth : width ≤ 9)
    (hlt : nanosecond < 10 ^ 9) (hdvd : nanosecond % 10 ^ (9 - width) = 0) :
    fraction.run ('.' :: (paddedDigits width (nanosecond / 10 ^ (9 - width)) ++ ['Z'])) =
      pure (nanosecond, ['Z']) := by
  have hsplit : 10 ^ 9 = 10 ^ (9 - width) * 10 ^ width := by
    rw [← Nat.pow_add]
    congr 1
    omega
  have hshort : nanosecond / 10 ^ (9 - width) < 10 ^ width :=
    Nat.div_lt_of_lt_mul (hsplit ▸ hlt)
  have hlength := length_paddedDigits hpos hshort
  have hback : nanosecond / 10 ^ (9 - width) * 10 ^ (9 - width) = nanosecond :=
    Nat.div_mul_cancel (Nat.dvd_of_mod_eq_zero hdvd)
  have hsmall : nanosecond / 10 ^ (9 - width) ≤ maxAccumulated := by
    have : maxAccumulated = 2 ^ 63 - 1 := rfl
    have := Nat.div_le_self nanosecond (10 ^ (9 - width))
    omega
  have hdigits : (digits (some 9)).run
      (paddedDigits width (nanosecond / 10 ^ (9 - width)) ++ ['Z']) =
        pure (paddedDigits width (nanosecond / 10 ^ (9 - width)), ['Z']) :=
    digits_run (fun _ hc => isDigit_of_mem_paddedDigits hc) (paddedDigits_ne_nil _ _)
      (fun k hk => by cases hk; omega) rfl (by simpa using hsmall)
  simp [fraction, hdigits, hlength, hback, List.dropWhile]

theorem fraction_run {nanosecond : Nat} (hlt : nanosecond < 10 ^ 9) :
    fraction.run (Instant.fractionText nanosecond ++ ['Z']) = pure (nanosecond, ['Z']) := by
  unfold Instant.fractionText
  split
  · rename_i hzero
    rw [hzero]
    rfl
  split
  · rename_i hmilli
    exact fraction_run_digits 3 (by decide) (by decide) hlt hmilli
  split
  · rename_i hmicro
    exact fraction_run_digits 6 (by decide) (by decide) hlt hmicro
  · simpa using fraction_run_digits 9 (by decide) (by decide) hlt (Nat.mod_one _)

theorem offset_run : offset.run ['Z'] = pure (0, []) := rfl

end Reader

/-! ## The whole text -/

/-- The fields of an instant as they are written. -/
def Instant.fields (instant : Instant) : Reader.Fields where
  year := instant.date.year
  month := instant.date.month
  day := instant.date.day
  hour := instant.time.hour
  minute := instant.time.minute
  second := instant.time.second
  nanosecond := instant.time.nanosecond
  offset := 0

theorem Date.Valid.month_le {year : Int} {month day : Nat} (h : Date.Valid year month day) :
    1 ≤ month ∧ month ≤ 12 := by
  obtain ⟨-, -, hone, hday⟩ := h
  unfold daysInMonth at hday
  split at hday <;> omega

theorem Date.Valid.day_le {year : Int} {month day : Nat} (h : Date.Valid year month day) :
    1 ≤ day ∧ day ≤ 31 := by
  obtain ⟨-, -, hone, hday⟩ := h
  unfold daysInMonth at hday
  split at hday <;> (try split at hday) <;> omega

namespace Reader

/-- The reader takes the fields of an instant from its text. -/
theorem fields_run (instant : Instant) :
    fields.run (instant.text .letter) = pure (instant.fields, []) := by
  obtain ⟨hfirst, hlast⟩ := instant.date.valid.month_le
  obtain ⟨hone, hday⟩ := instant.date.valid.day_le
  have hhour := instant.time.hour_lt
  have hminute := instant.time.minute_lt
  have hsecond := instant.time.second_le
  have hsign : ∀ {n : Nat} {rest : List Char},
      ((paddedDigits 2 n ++ rest).head?.any Text.isBlank) = false :=
    head?_paddedDigits_append 2 _ _
  have hfractionHead : ∀ {p : Char → Bool}, p '.' = false → p 'Z' = false →
      (Instant.fractionText instant.time.nanosecond ++ ['Z']).head?.any p = false := by
    intro p hpoint hletter
    unfold Instant.fractionText
    split <;> (try split) <;> (try split) <;> simp [hpoint, hletter]
  unfold fields Instant.text
  simp only [Instant.UtcMark.text, List.append_assoc, List.cons_append]
  rw [run_bind_of (year_run instant.date.valid.1 instant.date.valid.2.1 rfl),
    run_bind_of (skipBlanks_run rfl), run_bind_of (literal_run '-' _),
    run_bind_of (field_run hfirst hlast (by omega) rfl),
    run_bind_of (skipBlanks_run rfl), run_bind_of (literal_run '-' _),
    run_bind_of (field_run hone hday (by omega) rfl), run_bind_of (separator_run _),
    run_bind_of (field_run (Nat.zero_le _) (by omega) (by omega) rfl),
    run_bind_of (skipBlanks_run rfl), run_bind_of (literal_run ':' _),
    run_bind_of (field_run (Nat.zero_le _) (by omega) (by omega) rfl),
    run_bind_of (skipBlanks_run rfl), run_bind_of (literal_run ':' _),
    run_bind_of (field_run (Nat.zero_le _) hsecond (by omega) (hfractionHead rfl rfl)),
    run_bind_of (fraction_run instant.time.nanosecond_lt), run_bind_of offset_run]
  rfl

end Reader

theorem TimeOfDay.addMinutes_zero (time : TimeOfDay) : time.addMinutes (-0) = (time, 0) := by
  have hhour := time.hour_lt
  have hminute := time.minute_lt
  obtain ⟨hour, minute, second, nanosecond, _, _, _, _⟩ := time
  simp only [TimeOfDay.addMinutes, Prod.mk.injEq, TimeOfDay.mk.injEq] at hhour hminute ⊢
  refine ⟨⟨?_, ?_, trivial, trivial⟩, ?_⟩ <;> omega

/-- Every instant is read back from its text. -/
theorem Instant.read_text (instant : Instant) :
    Instant.read (instant.text .letter) = .ok instant := by
  have hdate : Date.ofFields? instant.date.year instant.date.month instant.date.day =
      some instant.date := dif_pos instant.date.valid
  have htime : TimeOfDay.ofFields? instant.time.hour instant.time.minute instant.time.second
      instant.time.nanosecond = some instant.time :=
    dif_pos ⟨instant.time.hour_lt, instant.time.minute_lt, instant.time.second_le,
      instant.time.nanosecond_lt⟩
  have hlocal : Instant.ofLocal? instant.date instant.time 0 = some instant := by
    rw [Instant.ofLocal?, TimeOfDay.addMinutes_zero]
    rfl
  have hfields : instant.fields.instant = .ok instant := by
    simp only [Reader.Fields.instant, Instant.fields, hdate, htime, hlocal]
    rfl
  rw [Instant.read, Reader.fields_run, pure_bind]
  exact hfields

end StorageSurvey.Time
