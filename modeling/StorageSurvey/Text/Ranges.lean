/-!
# Sets of characters by their code points

The properties of the character database come as lists of ranges of code points.
-/

namespace StorageSurvey.Text

/-- A set of code points as ranges with both ends included. -/
abbrev Ranges := List (Nat × Nat)

/-- Whether the code point of `c` lies in one of the ranges. -/
def Ranges.contains (ranges : Ranges) (c : Char) : Bool :=
  ranges.any fun range => range.1 ≤ c.toNat && c.toNat ≤ range.2

end StorageSurvey.Text
