/-!
# Ranges of code points

A Unicode property is given as a table of ranges of code points, both ends included.
-/

namespace Stepwise.Text

/-- A table of ranges of code points, first and last of each. -/
abbrev CodeRanges := Array (Nat × Nat)

/-- Whether a character lies in one of the ranges. -/
def CodeRanges.covers (table : CodeRanges) (c : Char) : Bool :=
  table.any fun range => range.1 ≤ c.toNat && c.toNat ≤ range.2

end Stepwise.Text
