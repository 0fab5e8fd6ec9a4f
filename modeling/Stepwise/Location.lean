/-!
# Locations

A location names a character of a program text by its line and its column. Both are counted
from one, and a column counts characters, not bytes.
-/

namespace Stepwise

/-- A place in a program text. -/
structure Location where
  /-- The line, counted from one. -/
  line : Nat
  /-- The column in characters, counted from one. -/
  column : Nat
deriving DecidableEq, Repr, Inhabited

namespace Location

/-- The first character of a text. -/
def start : Location := ⟨1, 1⟩

/-- A location as it is written inside messages. -/
def describe (loc : Location) : String :=
  s!"line {loc.line}, column {loc.column}"

end Location

end Stepwise
