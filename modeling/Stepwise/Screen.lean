import Stepwise.Screen.Area
import Stepwise.Screen.Glyph

/-!
# Screens

A screen is a grid of cells, each with a symbol and a look. Drawing never reaches beyond the
grid. Text is drawn in two ways: flowing text puts each glyph into a cell, while a line of a list
also keeps what takes no cell, and clears the cells that a wide glyph covers.
-/

namespace Stepwise

/-- One cell of a screen. -/
structure Cell where
  /-- What the cell shows. -/
  symbol : String := " "
  /-- How it looks. -/
  look : Look := {}
deriving DecidableEq, Repr, Inhabited

namespace Cell

/-- Gives the cell another style. -/
def restyle (cell : Cell) (style : Style) : Cell :=
  { cell with look := style.apply cell.look }

/-- Shows a glyph in the cell. -/
def put (cell : Cell) (glyph : Glyph) : Cell :=
  { cell.restyle glyph.style with symbol := glyph.symbol }

/-- Adds a glyph to what the cell shows. -/
def append (cell : Cell) (glyph : Glyph) : Cell :=
  { cell.restyle glyph.style with symbol := cell.symbol ++ glyph.symbol }

/-- Whether the symbol reaches into the next cell. -/
def isWide (cell : Cell) : Bool :=
  1 < Text.width cell.symbol.toList

end Cell

/-- A grid of cells, row by row. -/
structure Screen where
  /-- The number of columns. -/
  width : Nat
  /-- The number of rows. -/
  height : Nat
  /-- The cells. -/
  cells : Vector Cell (width * height)

/-- How a line lies in its area. -/
inductive Alignment where
  | left
  | right
deriving DecidableEq, Repr

/-- The symbol of a frame around an area at a cell: corners before edges, and among those the
upper left corner and the lower edge first. -/
def Area.frameSymbol? (area : Area) (x y : Nat) : Option String :=
  let onLeft := x == area.x
  let onRight := x + 1 == area.right
  let onTop := y == area.y
  let onBottom := y + 1 == area.bottom
  if !area.contains x y then none
  else if onLeft && onTop then some "┌"
  else if onLeft && onBottom then some "└"
  else if onRight && onTop then some "┐"
  else if onRight && onBottom then some "┘"
  else if onBottom || onTop then some "─"
  else if onRight || onLeft then some "│"
  else none

namespace Screen

/-- A screen of blanks, of these measures if it has not too many cells. -/
def blank (width height : Nat) : Screen :=
  let area := Area.ofMeasures 0 0 width height
  ⟨area.width, area.height, .replicate _ {}⟩

/-- The area of the whole screen. -/
def area (screen : Screen) : Area :=
  ⟨0, 0, screen.width, screen.height⟩

/-- Changes every cell, given its column and row. -/
def mapCells (screen : Screen) (f : Nat → Nat → Cell → Cell) : Screen :=
  ⟨screen.width, screen.height,
    screen.cells.mapIdx fun i cell => f (i % screen.width) (i / screen.width) cell⟩

/-- Gives the cells of an area another style. -/
def paint (screen : Screen) (area : Area) (style : Style) : Screen :=
  screen.mapCells fun x y cell => if area.contains x y then cell.restyle style else cell

/-- Draws a frame around an area. -/
def frame (screen : Screen) (area : Area) (style : Style) : Screen :=
  screen.mapCells fun x y cell =>
    match area.frameSymbol? x y with
    | some symbol => { cell.restyle style with symbol := symbol }
    | none => cell

/-- Changes a cell, if it is on the screen. -/
def modify (screen : Screen) (x y : Nat) (f : Cell → Cell) : Screen :=
  match screen with
  | ⟨width, height, cells⟩ =>
    if h : x < width ∧ y < height then
      have inside : x + width * y < width * height :=
        calc x + width * y < width + width * y := Nat.add_lt_add_right h.1 _
          _ = width * (y + 1) := by rw [Nat.mul_succ, Nat.add_comm]
          _ ≤ width * height := Nat.mul_le_mul_left _ h.2
      ⟨width, height, cells.set (x + width * y) (f cells[x + width * y])⟩
    else ⟨width, height, cells⟩

/-! ## Flowing text -/

/-- Draws glyphs one after the other. -/
def putAll (screen : Screen) (x y : Nat) : List Glyph → Screen
  | [] => screen
  | glyph :: glyphs => (screen.modify x y (·.put glyph)).putAll (x + glyph.width) y glyphs

/-- Draws lines of flowing text from the top of an area, as many as it has rows for. -/
def drawText (screen : Screen) (area : Area) (alignment : Alignment) (lines : List (List Span)) :
    Screen :=
  let area := area.clip screen.area
  (lines.take area.height).zipIdx.foldl
    (fun screen (line, row) =>
      let glyphs := Span.flowing area.width line
      let indent := match alignment with
        | .left => 0
        | .right => area.width - Glyph.totalWidth glyphs
      screen.putAll (area.x + indent) (area.y + row) glyphs) screen

/-! ## Lines of a list -/

/-- Makes `count` cells of a row plain blanks. -/
def clear (screen : Screen) (x y : Nat) : Nat → Screen
  | 0 => screen
  | count + 1 => (screen.modify x y fun _ => {}).clear (x + 1) y count

/-- Draws the glyphs of a span after its first ones, the next of them in the column `x`, up to the
first that would end right of `right`. One that takes no cell goes into the cell before it, and as
long as none has taken a cell, all go into the cell `start` in which the span starts. -/
def drawGlyphs (screen : Screen) (start right x y : Nat) : List Glyph → Screen
  | [] => screen
  | glyph :: glyphs =>
    if right < x + glyph.width then screen
    else
      let drawn :=
        if x == start then screen.modify x y (·.append glyph)
        else if glyph.width == 0 then screen.modify (x - 1) y (·.append glyph)
        else screen.modify x y (·.put glyph)
      (drawn.clear (x + 1) y (glyph.width - 1)).drawGlyphs start right (x + glyph.width) y glyphs

/-- Draws a span from the column `x` on, up to the first glyph that would end right of `right`. -/
def drawSpan (screen : Screen) (right x y : Nat) (span : Span) : Screen :=
  match span.glyphs with
  | [] => screen
  | glyph :: glyphs =>
    if right < x + glyph.width then screen
    else
      ((screen.modify x y (·.put glyph)).clear (x + 1) y (glyph.width - 1)).drawGlyphs
        x right (x + glyph.width) y glyphs

/-- Draws the spans of a line from the column `x` on, up to the column `right`. Each starts where
the text before it ends; a span that takes no cell is not drawn. -/
def drawSpans (screen : Screen) (right x y : Nat) : List Span → Screen
  | [] => screen
  | span :: spans =>
    if span.width == 0 then screen.drawSpans right x y spans
    else if right ≤ x then screen
    else (screen.drawSpan right x y span).drawSpans right (x + span.width) y spans

/-! ## Frames -/

/-- Draws a frame with a title in its upper edge around the part of an area that is on the
screen. -/
def drawFrame (screen : Screen) (area : Area) (title : String) (style : Style) : Screen :=
  let area := area.clip screen.area
  if area.isEmpty then screen
  else
    (screen.frame area style).drawSpans (area.x + 1 + (area.width - 2)) (area.x + 1) area.y
      [⟨title, {}⟩]

/-! ## What a screen shows -/

/-- The cells as they show, row by row: the one after a wide symbol is a plain blank. -/
def shown (screen : Screen) : Array Cell :=
  let wide := screen.cells.toArray.map Cell.isWide
  screen.cells.toArray.mapIdx fun i cell =>
    if 0 < i && wide.getD (i - 1) false then {} else cell

/-- The rows from the top, each from the left, as they show. -/
def rows (screen : Screen) : List (List Cell) :=
  let cells := screen.shown
  (List.range screen.height).map fun y =>
    (cells.extract (screen.width * y) (screen.width * (y + 1))).toList

end Screen

/-- Cells of the same look next to each other. -/
structure LookRun where
  /-- The column of the first. -/
  x : Nat
  /-- Their number. -/
  length : Nat
  /-- Their look. -/
  look : Look
deriving DecidableEq, Repr

namespace LookRun

/-- The runs of cells that go on from the run `run`. -/
def ofCellsFrom (run : LookRun) : List Cell → List LookRun
  | [] => [run]
  | cell :: cells =>
    if cell.look = run.look then ofCellsFrom { run with length := run.length + 1 } cells
    else run :: ofCellsFrom ⟨run.x + run.length, 1, cell.look⟩ cells

/-- The runs of a row that do not look plain. -/
def ofCells (cells : List Cell) : List LookRun :=
  match cells with
  | [] => []
  | cell :: cells => (ofCellsFrom ⟨0, 1, cell.look⟩ cells).filter (·.look != {})

end LookRun

end Stepwise
