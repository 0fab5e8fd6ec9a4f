/-!
# Areas

Rectangles of cells, and how they are divided. An area has so many cells at most that a word of 16
bits can count them; a larger one is made smaller in proportion.
-/

namespace Stepwise

/-- A rectangle of cells. -/
structure Area where
  /-- The column of the left edge. -/
  x : Nat
  /-- The row of the upper edge. -/
  y : Nat
  /-- The number of columns. -/
  width : Nat
  /-- The number of rows. -/
  height : Nat
deriving DecidableEq, Repr, Inhabited

/-- The greatest number whose square is not above `n`, found from that of a quarter of `n`. -/
def floorRoot (n : Nat) : Nat :=
  if n = 0 then 0
  else
    let half := 2 * floorRoot (n / 4)
    if (half + 1) * (half + 1) ≤ n then half + 1 else half
termination_by n

namespace Area

/-- The greatest number of cells of an area. -/
def maxCells : Nat :=
  65535

/-- The area of these measures, made smaller in proportion if it had too many cells. -/
def ofMeasures (x y width height : Nat) : Area :=
  if width * height ≤ maxCells then ⟨x, y, width, height⟩
  else ⟨x, y, floorRoot (maxCells * width / height), floorRoot (maxCells * height / width)⟩

/-- The column right of the area. -/
def right (area : Area) : Nat :=
  area.x + area.width

/-- The row below the area. -/
def bottom (area : Area) : Nat :=
  area.y + area.height

/-- Whether the area has no cells. -/
def isEmpty (area : Area) : Bool :=
  area.width == 0 || area.height == 0

/-- Whether a cell lies in the area. -/
def contains (area : Area) (x y : Nat) : Bool :=
  area.x ≤ x && x < area.right && area.y ≤ y && y < area.bottom

/-- The part of the area that lies within another. -/
def clip (area bounds : Area) : Area :=
  let x := max area.x bounds.x
  let y := max area.y bounds.y
  ⟨x, y, min area.right bounds.right - x, min area.bottom bounds.bottom - y⟩

/-- What a frame around the area leaves inside. -/
def inner (area : Area) : Area :=
  ⟨area.x + min 1 area.width, area.y + min 1 area.height, area.width - 2, area.height - 2⟩

/-- The area without its first column. -/
def padLeft (area : Area) : Area :=
  { area with x := area.x + 1, width := area.width - 1 }

/-- A share of a length in percent, rounded to the nearest whole, a half upwards. -/
def share (length percent : Nat) : Nat :=
  (length * percent + 50) / 100

/-- A left part with a share of the width, and the rest. -/
def splitColumns (area : Area) (percent : Nat) : Area × Area :=
  let left := share area.width percent
  ({ area with width := left },
    { area with x := area.x + left, width := area.width - left })

/-- An upper part with a share of the height, and the rest. -/
def splitRows (area : Area) (percent : Nat) : Area × Area :=
  let upper := share area.height percent
  ({ area with height := upper },
    { area with y := area.y + upper, height := area.height - upper })

/-- The area without its last row, and the last row. -/
def splitLastRow (area : Area) : Area × Area :=
  let upper := area.height - 1
  ({ area with height := upper },
    { area with y := area.y + upper, height := area.height - upper })

end Area

end Stepwise
