import Stepwise.Screen.Item
import Stepwise.Text.Numeral
import Stepwise.Trace
import Stepwise.Viewer.Highlight
import Stepwise.Viewer.Scroll

/-!
# Panes

The parts of the viewer's screen: the program text, the scopes, the output and the status bar.
A pane that can be scrolled is drawn together with its offset, which drawing brings into range.
-/

namespace Stepwise

/-- A screen and the offset of the pane that was drawn on it. -/
structure Drawn where
  /-- The screen. -/
  screen : Screen
  /-- The offset after drawing. -/
  scroll : Nat

namespace Pane

/-- The style of the frame of a pane. -/
def borderStyle (focused : Bool) : Style :=
  if focused then Theme.focusedBorder else Theme.border

/-- The rows of a pane's content that show from an offset on. -/
def window {α : Type} (content : List α) (offset visible : Nat) : List α :=
  (content.drop offset).take visible

/-- Draws a pane that has nothing to show but a note saying so. -/
def drawNote (screen : Screen) (area : Area) (title note : String) (focused : Bool) : Screen :=
  let area := area.clip screen.area
  let screen := screen.paint area (Theme.ink Theme.muted)
  let screen := screen.drawFrame area title (borderStyle focused)
  screen.drawText area.inner .left [[⟨note, {}⟩]]

end Pane

/-! ## The program text -/

namespace SourcePane

/-- How the line that is about to run is marked. -/
structure Marking where
  /-- The number of the line, counted from one; zero marks none. -/
  line : Nat
  /-- Whether the run ended there with an error. -/
  isError : Bool

/-- A line number in four columns, or more if it needs them, and a blank. -/
def gutter (number : Nat) : String :=
  let digits := toString number
  "".pushn ' ' (4 - digits.length) ++ digits ++ " "

/-- The style of the number of the marked line. -/
def gutterStyle (marking : Marking) : Style :=
  Theme.boldInk (if marking.isError then Theme.error else Theme.currentLine)

/-- The style laid over the text of the marked line. -/
def lineStyle (marking : Marking) : Style :=
  if marking.isError then { bg := some Theme.error, fg := some .white }
  else { bg := some Theme.highlight }

/-- A numbered line as spans. -/
def lineSpans (marking : Marking) (number : Nat) (line : List Char) : List Span :=
  if number = marking.line then
    ⟨gutter number, gutterStyle marking⟩ ::
      (highlight line).map fun span =>
        { span with style := span.style.andThen (lineStyle marking) }
  else ⟨gutter number, Theme.ink Theme.muted⟩ :: highlight line

/-- The numbered lines that are taken for display at an offset, in a pane of this height. -/
def taken (source : String) (offset height : Nat) : List (Nat × List Char) :=
  Pane.window (Text.numberedLines source) offset (Scroll.visibleRows height)

/-- Draws the program text so that the marked line is in view. -/
def draw (screen : Screen) (area : Area) (source : String) (marking : Marking) (scroll : Nat) :
    Drawn :=
  let total := (Text.numberedLines source).length
  let scroll := Scroll.follow scroll marking.line total (Scroll.visibleRows area.height)
  let shown := (taken source scroll area.height).map fun (number, line) =>
    lineSpans marking number line
  let area := area.clip screen.area
  let screen := screen.drawFrame area " Source Code " Theme.border
  ⟨screen.drawText area.inner .left shown, scroll⟩

end SourcePane

/-! ## The scopes -/

namespace ScopesPane

/-- The title of the scope at an index, innermost first, out of `count` scopes. -/
def title (routine : String) (count index : Nat) (scope : ScopeView) : String :=
  if index + 1 = count then s!"root scope #{scope.depth}"
  else if index = 0 then s!"{routine}() scope #{scope.depth}"
  else s!"scope #{scope.depth}"

/-- The row of a value. -/
def valueItem (scope : ScopeView) (key : String) (value : Int32) : Item :=
  let color := if key ∈ scope.declaredHere then Theme.declared else Theme.text
  .ofSpans [⟨s!"  {key}", Theme.ink color⟩, ⟨" = ", Theme.ink Theme.muted⟩,
    ⟨Text.decimal value, Theme.ink Theme.number⟩]

/-- The rows of the values of a scope. -/
def valueItems (scope : ScopeView) : List Item :=
  if scope.values.isEmpty then [.ofSpans [⟨"  (empty)", Theme.ink Theme.muted⟩]]
  else scope.values.map fun (key, value) => valueItem scope key value

/-- The rows of all scopes of a record. -/
def items (snapshot : Snapshot) : List Item :=
  snapshot.scopes.zipIdx.flatMap fun (scope, index) =>
    .ofSpans [⟨title snapshot.routine snapshot.scopes.length index scope,
        Theme.boldInk Theme.accent⟩] :: valueItems scope

/-- Draws the scopes of a record, if there is one. -/
def draw (screen : Screen) (area : Area) (snapshot : Option Snapshot) (focused : Bool)
    (scroll : Nat) : Drawn :=
  match snapshot with
  | none => ⟨Pane.drawNote screen area " Scopes " "(no trace)" focused, scroll⟩
  | some snapshot =>
    let items := items snapshot
    let visible := Scroll.visibleRows area.height
    let scroll := Scroll.clamp scroll items.length visible
    let screen := screen.drawFrame area " Scopes " (Pane.borderStyle focused)
    ⟨screen.drawItems area.inner (Pane.window items scroll visible), scroll⟩

end ScopesPane

/-! ## The output -/

namespace OutputPane

/-- Draws lines of output. -/
def draw (screen : Screen) (area : Area) (lines : List String) (focused : Bool) (scroll : Nat) :
    Drawn :=
  if lines.isEmpty then ⟨Pane.drawNote screen area " Output " "(no output)" focused, scroll⟩
  else
    let visible := Scroll.visibleRows area.height
    let scroll := Scroll.clamp scroll lines.length visible
    let items := (Pane.window lines scroll visible).map fun line =>
      Item.ofText line (Theme.ink Theme.text)
    let screen := screen.drawFrame area " Output " (Pane.borderStyle focused)
    ⟨screen.drawItems area.inner.padLeft items, scroll⟩

end OutputPane

/-! ## The status bar -/

/-- What the status bar tells. -/
structure Status where
  /-- The message. -/
  message : String
  /-- The index of the record on display, in a word; the number of the record is one more, and after
  the greatest word comes zero. -/
  step : UInt64
  /-- The number of records. -/
  total : Nat
  /-- Whether an error is on display. -/
  isError : Bool
  /-- Whether the trace is being played. -/
  playing : Bool
deriving DecidableEq, Repr

namespace Status

/-- The number of the record on display. -/
def number (status : Status) : Nat :=
  (status.step + 1).toNat

/-- The style of a badge of this colour. -/
def badgeStyle (color : Color) : Style :=
  { bg := some color, fg := some .black, bold := true }

/-- The left half: the step counter and the message. -/
def counter (status : Status) : List Span :=
  let badge := if status.isError then Theme.error else Theme.accent
  let ink := if status.isError then Theme.error else Theme.text
  [⟨s!" Step {status.number}/{max status.total 1} ", badgeStyle badge⟩,
    ⟨s!" {status.message} ", { bg := some Theme.highlight, fg := some ink }⟩]

/-- The keys with what they do. -/
def keys : List (String × String) :=
  [(" ←/→ ", " step "), (" ⎵ ", " play "), (" Home/End ", " start/end "), (" q ", " quit ")]

/-- The spans of the keys. -/
def keySpans : List Span :=
  keys.flatMap fun (key, purpose) =>
    [⟨key, { bg := some Theme.muted, fg := some .black }⟩,
      ⟨purpose, { bg := some Theme.highlight, fg := some Theme.text }⟩]

/-- The badge that tells where in the trace the viewer is. -/
def badge? (status : Status) : Option Span :=
  if status.playing then some ⟨" ▶ PLAYING ", badgeStyle Theme.currentLine⟩
  else if status.total ≤ status.number then some ⟨" END ", badgeStyle Theme.error⟩
  else if status.step = 0 then some ⟨" START ", badgeStyle Theme.accent⟩
  else none

/-- Draws the status bar. -/
def draw (status : Status) (screen : Screen) (area : Area) : Screen :=
  let (left, right) := area.splitColumns 50
  let background : Style := { bg := some Theme.highlight }
  let screen := (screen.paint left background).drawText left .left [status.counter]
  (screen.paint right background).drawText right .right [keySpans ++ status.badge?.toList]

end Status

end Stepwise
