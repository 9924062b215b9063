import StorageSurvey.Json.Number

/-!
# Tokens of JSON

A text is cut into brackets, separators and scalars; blanks between them mean nothing.  Where a
token is malformed the text ends in the token `bad`, so the tokens before it are kept.
-/

namespace StorageSurvey.Json

/-- A scalar.  A text whose surrogate code units do not pair up has no value, though it may stand
where its value does not matter. -/
inductive Scalar
  | null
  | boolean (value : Bool)
  | number (literal : NumberLiteral)
  | text (value : Option String)
  deriving DecidableEq, Repr

inductive Token
  | openList
  | closeList
  | openTable
  | closeTable
  | comma
  | colon
  | scalar (value : Scalar)
  | bad
  deriving DecidableEq, Repr

/-! ## Texts -/

/-- A piece of a text: a character, or a code unit given by its number. -/
inductive Piece
  | char (c : Char)
  | unit (code : Nat)
  deriving DecidableEq, Repr

/-- The character that a letter after a backslash stands for. -/
def escaped? : Char → Option Char
  | '"' => some '"'
  | '\\' => some '\\'
  | '/' => some '/'
  | 'b' => some '\x08'
  | 'f' => some '\x0c'
  | 'n' => some '\n'
  | 'r' => some '\r'
  | 't' => some '\t'
  | _ => none

def hexDigit? (c : Char) : Option Nat :=
  if '0' ≤ c ∧ c ≤ '9' then some (c.toNat - 48)
  else if 'a' ≤ c ∧ c ≤ 'f' then some (c.toNat - 87)
  else if 'A' ≤ c ∧ c ≤ 'F' then some (c.toNat - 55)
  else none

/-- The number with four hexadecimal digits. -/
def codeUnit? (a b c d : Char) : Option Nat := do
  return (((← hexDigit? a) * 16 + (← hexDigit? b)) * 16 + (← hexDigit? c)) * 16 + (← hexDigit? d)

/-- The pieces of a text up to the closing quote, and what follows it. -/
def textPieces : List Char → Option (List Piece × List Char)
  | [] => none
  | '"' :: rest => some ([], rest)
  | '\\' :: 'u' :: a :: b :: c :: d :: rest => do
      let code ← codeUnit? a b c d
      let (pieces, after) ← textPieces rest
      return (.unit code :: pieces, after)
  | '\\' :: letter :: rest => do
      let c ← escaped? letter
      let (pieces, after) ← textPieces rest
      return (.char c :: pieces, after)
  | c :: rest =>
      if c.toNat < 0x20 then none
      else do
        let (pieces, after) ← textPieces rest
        return (.char c :: pieces, after)

def isHighSurrogate (code : Nat) : Bool :=
  0xD800 ≤ code && code < 0xDC00

def isLowSurrogate (code : Nat) : Bool :=
  0xDC00 ≤ code && code < 0xE000

/-- The characters that pieces stand for, surrogates being joined in pairs. -/
def joinPieces : List Piece → Option (List Char)
  | [] => some []
  | .char c :: rest => (joinPieces rest).map (c :: ·)
  | .unit code :: rest =>
      if isHighSurrogate code then
        match rest with
        | .unit low :: rest =>
            if isLowSurrogate low then
              let c := Char.ofNat (0x10000 + (code - 0xD800) * 0x400 + (low - 0xDC00))
              (joinPieces rest).map (c :: ·)
            else none
        | _ => none
      else if isLowSurrogate code then none
      else (joinPieces rest).map (Char.ofNat code :: ·)

/-! ## Numbers -/

/-- The digits at the start of a text, and what follows them; there is at least one. -/
def digits? (text : List Char) : Option (List Char × List Char) :=
  let digits := text.takeWhile Char.isDigit
  if digits.isEmpty then none else some (digits, text.dropWhile Char.isDigit)

/-- The digits before the point: a zero stands alone. -/
def wholeDigits? : List Char → Option (List Char × List Char)
  | '0' :: rest => match rest with
      | c :: _ => if c.isDigit then none else some (['0'], rest)
      | [] => some (['0'], rest)
  | text => digits? text

/-- The digits after the point, if there is one. -/
def fractionDigits? : List Char → Option (List Char × List Char)
  | '.' :: rest => digits? rest
  | text => some ([], text)

/-- The exponent, if there is one: whether it is negative, and its digits. -/
def exponent? : List Char → Option (Option (Bool × List Char) × List Char)
  | e :: rest =>
      if e = 'e' ∨ e = 'E' then
        let (negative, rest) := match rest with
          | '-' :: rest => (true, rest)
          | '+' :: rest => (false, rest)
          | _ => (false, rest)
        (digits? rest).map fun (digits, rest) => (some (negative, digits), rest)
      else some (none, e :: rest)
  | [] => some (none, [])

/-- The number at the start of a text, its sign apart. -/
def number? (negative : Bool) (text : List Char) : Option (NumberLiteral × List Char) := do
  let (whole, rest) ← wholeDigits? text
  let (fraction, rest) ← fractionDigits? rest
  let (exponent, rest) ← exponent? rest
  return ({ negative, whole, fraction, exponent }, rest)

/-! ## Tokens -/

/-- Takes the rest of a word that has begun. -/
def word? (wanted : List Char) (value : Scalar) (rest : List Char) :
    Option (Scalar × List Char) :=
  if wanted.isPrefixOf rest then some (value, rest.drop wanted.length) else none

/-- The scalar that begins with `first`, and what follows it. -/
def scalar? (first : Char) (rest : List Char) : Option (Scalar × List Char) :=
  match first with
  | 'n' => word? ['u', 'l', 'l'] .null rest
  | 't' => word? ['r', 'u', 'e'] (.boolean true) rest
  | 'f' => word? ['a', 'l', 's', 'e'] (.boolean false) rest
  | '"' => (textPieces rest).map fun (pieces, rest) =>
      (.text ((joinPieces pieces).map String.ofList), rest)
  | '-' => (number? true rest).map fun (literal, rest) => (.number literal, rest)
  | c => if c.isDigit then
      (number? false (c :: rest)).map fun (literal, rest) => (.number literal, rest)
    else none

/-- The token that begins with `first`, and what follows it. -/
def nextToken (first : Char) (rest : List Char) : Token × List Char :=
  match first with
  | '[' => (.openList, rest)
  | ']' => (.closeList, rest)
  | '\x7b' => (.openTable, rest)
  | '\x7d' => (.closeTable, rest)
  | ',' => (.comma, rest)
  | ':' => (.colon, rest)
  | _ => match scalar? first rest with
      | some (value, rest) => (.scalar value, rest)
      | none => (.bad, [])

def isSpace (c : Char) : Bool :=
  c == ' ' || c == '\t' || c == '\n' || c == '\r'

/-! ## The rest is no longer -/

private theorem length_dropWhile_le {α : Type} (p : α → Bool) (xs : List α) :
    (xs.dropWhile p).length ≤ xs.length :=
  (List.dropWhile_sublist p).length_le

theorem length_of_textPieces {text : List Char} {pieces : List Piece} {rest : List Char}
    (h : textPieces text = some (pieces, rest)) : rest.length ≤ text.length := by
  fun_induction textPieces text generalizing pieces rest with
  | case1 => simp at h
  | case2 after => grind
  | case3 a b c d after ih =>
      simp only [bind, Option.bind_eq_some_iff, pure, Option.some.injEq, Prod.mk.injEq] at h
      obtain ⟨code, _, ⟨ps, r⟩, hp, _, rfl⟩ := h
      have := ih hp
      simp only [List.length_cons]
      omega
  | case4 letter after _ ih =>
      simp only [bind, Option.bind_eq_some_iff, pure, Option.some.injEq, Prod.mk.injEq] at h
      obtain ⟨c, _, ⟨ps, r⟩, hp, _, rfl⟩ := h
      have := ih hp
      simp only [List.length_cons]
      omega
  | case5 => simp at h
  | case6 c after _ _ _ _ ih =>
      simp only [bind, Option.bind_eq_some_iff, pure, Option.some.injEq, Prod.mk.injEq] at h
      obtain ⟨⟨ps, r⟩, hp, _, rfl⟩ := h
      have := ih hp
      simp only [List.length_cons]
      omega

theorem length_of_digits? {text digits rest : List Char} (h : digits? text = some (digits, rest)) :
    rest.length < text.length := by
  have parts : (text.takeWhile Char.isDigit).length + (text.dropWhile Char.isDigit).length =
      text.length := by
    rw [← List.length_append, List.takeWhile_append_dropWhile]
  simp only [digits?] at h
  split at h
  · simp at h
  · rename_i nonempty
    have := List.length_pos_iff.mpr (mt List.isEmpty_iff.mpr nonempty)
    simp only [Option.some.injEq, Prod.mk.injEq] at h
    rw [← h.2]
    omega

theorem length_of_wholeDigits? {text digits rest : List Char}
    (h : wholeDigits? text = some (digits, rest)) : rest.length < text.length := by
  unfold wholeDigits? at h
  split at h
  · grind
  · exact length_of_digits? h

theorem length_of_fractionDigits? {text digits rest : List Char}
    (h : fractionDigits? text = some (digits, rest)) : rest.length ≤ text.length := by
  unfold fractionDigits? at h
  split at h
  · have := length_of_digits? h
    simp only [List.length_cons]
    omega
  · grind

theorem length_of_exponent? {text rest : List Char} {exponent : Option (Bool × List Char)}
    (h : exponent? text = some (exponent, rest)) : rest.length ≤ text.length := by
  unfold exponent? at h
  split at h
  · split at h
    · simp only [Option.map_eq_some_iff] at h
      obtain ⟨⟨ds, r⟩, hd, hr⟩ := h
      have := length_of_digits? hd
      grind
    · grind
  · grind

theorem length_of_number? {negative : Bool} {text rest : List Char} {n : NumberLiteral}
    (h : number? negative text = some (n, rest)) : rest.length < text.length := by
  simp only [number?, bind, Option.bind_eq_some_iff, pure, Option.some.injEq,
    Prod.mk.injEq] at h
  obtain ⟨⟨w, r₁⟩, h₁, ⟨f, r₂⟩, h₂, ⟨e, r₃⟩, h₃, _, rfl⟩ := h
  have := length_of_wholeDigits? h₁
  have := length_of_fractionDigits? h₂
  have := length_of_exponent? h₃
  simp only at *
  omega

private theorem length_of_word? {wanted rest after : List Char} {value found : Scalar}
    (h : word? wanted value rest = some (found, after)) : after.length ≤ rest.length := by
  have : (rest.drop wanted.length).length ≤ rest.length := by simp
  grind [word?]

theorem length_of_scalar? {first : Char} {rest after : List Char} {value : Scalar}
    (h : scalar? first rest = some (value, after)) : after.length ≤ rest.length := by
  unfold scalar? at h
  split at h
  · exact length_of_word? h
  · exact length_of_word? h
  · exact length_of_word? h
  · obtain ⟨⟨pieces, r⟩, hp, hr⟩ := Option.map_eq_some_iff.mp h
    have := length_of_textPieces hp
    grind
  · obtain ⟨⟨n, r⟩, hn, hr⟩ := Option.map_eq_some_iff.mp h
    have := length_of_number? hn
    grind
  · split at h
    · obtain ⟨⟨n, r⟩, hn, hr⟩ := Option.map_eq_some_iff.mp h
      have := length_of_number? hn
      grind
    · simp at h

/-- A token takes at least its first character. -/
theorem length_nextToken_le (first : Char) (rest : List Char) :
    (nextToken first rest).2.length ≤ rest.length := by
  unfold nextToken
  split <;> try exact Nat.le_refl _
  split
  · rename_i h
    exact length_of_scalar? h
  · exact Nat.zero_le _

/-- The tokens of a text. -/
def tokens (text : List Char) : List Token :=
  match _h : text.dropWhile isSpace with
  | [] => []
  | first :: rest =>
      let next := nextToken first rest
      next.1 :: tokens next.2
termination_by text.length
decreasing_by
  have := length_nextToken_le first rest
  have := length_dropWhile_le isSpace text
  simp only [_h, List.length_cons] at this
  omega

end StorageSurvey.Json
