import StorageSurvey.Yaml.Folding

/-!
# Scalars in quotes

Between single quotes only the quote itself has a special form, two quotes.  Between double quotes
a backslash begins an escape, and at the end of a line it joins the line with the next.
-/

namespace StorageSurvey.Yaml

def hexDigit? (c : Char) : Option Nat :=
  if '0' ≤ c ∧ c ≤ '9' then some (c.toNat - 48)
  else if 'a' ≤ c ∧ c ≤ 'f' then some (c.toNat - 87)
  else if 'A' ≤ c ∧ c ≤ 'F' then some (c.toNat - 55)
  else none

/-- The number with these hexadecimal digits. -/
def hexNumber? (digits : List Char) : Option Nat :=
  digits.foldlM (fun n c => (hexDigit? c).map (n * 16 + ·)) 0

/-- The character with these hexadecimal digits; surrogates are none. -/
def hexChar? (digits : List Char) : Option Char := do
  let n ← hexNumber? digits
  if (0xD800 ≤ n ∧ n ≤ 0xDFFF) ∨ 0x10FFFF < n then none else some (Char.ofNat n)

/-- The character that a letter after a backslash stands for. -/
def escapedChar? : Char → Option Char
  | '0' => some '\x00'
  | 'a' => some '\x07'
  | 'b' => some '\x08'
  | 't' => some '\t'
  | '\t' => some '\t'
  | 'n' => some '\n'
  | 'v' => some '\x0b'
  | 'f' => some '\x0c'
  | 'r' => some '\r'
  | 'e' => some '\x1b'
  | ' ' => some ' '
  | '"' => some '"'
  | '/' => some '/'
  | '\\' => some '\\'
  | 'N' => some '\u0085'
  | '_' => some '\u00a0'
  | 'L' => some '\u2028'
  | 'P' => some '\u2029'
  | _ => none

/-- Reads on between single quotes, up to the closing quote. -/
def singleQuotedFrom (folding : Folding) (mark : Mark) : List Char → Option (List Char × Cursor)
  | [] => none
  | c :: rest =>
      if isGap c then singleQuotedFrom (folding.pushGap c) (mark.past c) rest
      else if mark.column = 0 ∧ atDocumentMark (c :: rest) then none
      else if c = '\'' then
        match rest with
        | '\'' :: rest => singleQuotedFrom (folding.push '\'') (mark.ahead 2) rest
        | _ => some (folding.settle.value, ⟨rest, mark.ahead 1⟩)
      else singleQuotedFrom (folding.push c) (mark.ahead 1) rest

/-- Reads on between double quotes, up to the closing quote. -/
def doubleQuotedFrom (folding : Folding) (mark : Mark) : List Char → Option (List Char × Cursor)
  | [] => none
  | c :: rest =>
      if isGap c then doubleQuotedFrom (folding.pushGap c) (mark.past c) rest
      else if mark.column = 0 ∧ atDocumentMark (c :: rest) then none
      else if c = '"' then some (folding.settle.value, ⟨rest, mark.ahead 1⟩)
      else if c = '\\' then
        match rest with
        | 'x' :: a :: b :: rest => do
            let c ← hexChar? [a, b]
            doubleQuotedFrom (folding.push c) (mark.ahead 4) rest
        | 'u' :: a :: b :: c :: d :: rest => do
            let c ← hexChar? [a, b, c, d]
            doubleQuotedFrom (folding.push c) (mark.ahead 6) rest
        | 'U' :: a :: b :: c :: d :: e :: f :: g :: h :: rest => do
            let c ← hexChar? [a, b, c, d, e, f, g, h]
            doubleQuotedFrom (folding.push c) (mark.ahead 10) rest
        | e :: rest =>
            if isBreak e then doubleQuotedFrom folding.pushEscapedBreak (mark.past e) rest
            else do
              let c ← escapedChar? e
              doubleQuotedFrom (folding.push c) (mark.ahead 2) rest
        | [] => none
      else doubleQuotedFrom (folding.push c) (mark.ahead 1) rest

end StorageSurvey.Yaml
