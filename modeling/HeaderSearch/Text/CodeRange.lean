/-
# Character properties as ranges of code points

A property of characters is kept as the closed ranges of code points that have it.
Ranges are listed in ascending order and apart from each other, so a table can be read and
checked by eye. Looking a character up does not depend on that order.
-/

namespace HeaderSearch.Text

/-- Closed ranges of code points: the first and the last member of each. -/
abbrev CodeRanges := List (Nat × Nat)

def CodeRanges.holds (ranges : CodeRanges) (c : Char) : Bool :=
  ranges.any fun range => range.1 ≤ c.toNat && c.toNat ≤ range.2

end HeaderSearch.Text
