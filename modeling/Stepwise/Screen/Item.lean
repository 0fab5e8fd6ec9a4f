import Stepwise.Screen
import Stepwise.Text.Lines

/-!
# Lists on a screen

A list shows items from the top of its area, each of one line or more and each drawn whole.
-/

namespace Stepwise

/-- An item of a list. -/
structure Item where
  /-- Its lines. -/
  lines : List (List Span)
  /-- The style of its rows, over their whole width. -/
  style : Style := {}
deriving DecidableEq, Repr, Inhabited

namespace Item

/-- The item of one line. -/
def ofSpans (spans : List Span) : Item :=
  { lines := [spans] }

/-- The item of a plain text, of one line at least. -/
def ofText (text : String) (style : Style) : Item :=
  let lines := if text.isEmpty then [[]] else Text.lines text
  { lines := lines.map fun line => [⟨String.ofList line, {}⟩], style := style }

/-- The number of rows that an item takes. -/
def height (item : Item) : Nat :=
  item.lines.length

/-- The items, each with its first row, up to the first that does not fit the rows left. -/
def placed (row room : Nat) : List Item → List (Item × Nat)
  | [] => []
  | item :: items =>
    if item.height ≤ room then
      (item, row) :: placed (row + item.height) (room - item.height) items
    else []

end Item

namespace Screen

/-- Draws an item from a row of an area on. -/
def drawItem (screen : Screen) (area : Area) (item : Item) (row : Nat) : Screen :=
  let painted :=
    screen.paint { area with y := area.y + row, height := item.height } item.style
  let right := min area.right screen.width
  item.lines.zipIdx.foldl
    (fun screen (line, i) => screen.drawSpans right area.x (area.y + row + i) line) painted

/-- Draws the items of a list from the top of an area. -/
def drawItems (screen : Screen) (area : Area) (items : List Item) : Screen :=
  (Item.placed 0 area.height items).foldl
    (fun screen (item, row) => screen.drawItem area item row) screen

end Screen

end Stepwise
