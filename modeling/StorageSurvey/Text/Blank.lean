/-!
# White space

The characters with the Unicode property White_Space, and trimming by them.  This is wider than
the class that the core library calls white space: it also has the no-break space, the
typographic spaces and the line and paragraph separators.
-/

namespace StorageSurvey.Text

/-- Whether `c` has the Unicode property White_Space. -/
def isBlank (c : Char) : Bool :=
  let n := c.toNat
  (9 ≤ n && n ≤ 13) || n == 0x20 || n == 0x85 || n == 0xA0 || n == 0x1680 ||
    (0x2000 ≤ n && n ≤ 0x200A) || n == 0x2028 || n == 0x2029 || n == 0x202F || n == 0x205F ||
    n == 0x3000

/-- `text` without the blanks at its start. -/
def trimStart (text : List Char) : List Char :=
  text.dropWhile isBlank

/-- `text` without the blanks at its end. -/
def trimEnd (text : List Char) : List Char :=
  (text.reverse.dropWhile isBlank).reverse

/-- The parts of `text` between its separators; there is one more part than separators. -/
def split (isSeparator : Char → Bool) : List Char → List (List Char)
  | [] => [[]]
  | c :: rest =>
      if isSeparator c then [] :: split isSeparator rest
      else match split isSeparator rest with
        | [] => [[c]]
        | part :: others => (c :: part) :: others

/-- `text` cut at every line feed. -/
def lines (text : List Char) : List (List Char) :=
  split (· == '\n') text

end StorageSurvey.Text
