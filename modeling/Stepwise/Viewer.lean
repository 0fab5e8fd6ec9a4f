import Stepwise.Output
import Stepwise.Trace
import Stepwise.Viewer.Key
import Stepwise.Viewer.Pane

/-!
# The viewer

The viewer shows a trace one record at a time. Keys move through the trace, scroll the pane in
focus and start or stop playing.
-/

namespace Stepwise

/-- The panes that take the scroll keys. -/
inductive Focus where
  | scopes
  | output
deriving DecidableEq, Repr

/-- The other pane. -/
def Focus.next : Focus → Focus
  | scopes => output
  | output => scopes

/-- The state of the viewer. -/
structure Viewer where
  /-- The trace. -/
  trace : History
  /-- All that the program printed. -/
  output : Output
  /-- The text of the program. -/
  source : String
  /-- The message of the error that ended the run, if one did. -/
  error : Option String
  /-- The index of the record on display. -/
  position : Nat := 0
  /-- The pane in focus. -/
  focus : Focus := .scopes
  /-- The offset of the program text. -/
  sourceScroll : Nat := 0
  /-- The offset of the scopes. -/
  scopesScroll : Nat := 0
  /-- The offset of the output. -/
  outputScroll : Nat := 0
  /-- Whether the viewer is to be left. -/
  quit : Bool := false
  /-- Whether the trace is being played. -/
  playing : Bool := false
  /-- The message in the status bar. -/
  status : String

namespace Viewer

/-- The viewer of a run. -/
def ofRun (trace : History) (output : Output) (source : String) (error : Option String) :
    Viewer :=
  { trace := trace, output := output, source := source, error := error
    status := error.getD "Ready!" }

/-- The record on display. -/
def current (viewer : Viewer) : Option Snapshot :=
  viewer.trace.get? viewer.position

/-- Whether no record comes after the one on display. -/
def isLast (viewer : Viewer) : Bool :=
  viewer.trace.size ≤ viewer.position + 1

/-- Whether the error that ended the run is on display. -/
def onError (viewer : Viewer) : Bool :=
  viewer.error.isSome && viewer.isLast

/-- The number of bytes of output on display: those printed before the record's step, and at the
end of a run without an error all of them. -/
def shownSize (viewer : Viewer) : Nat :=
  match viewer.current with
  | none => viewer.output.size
  | some snapshot =>
    if viewer.isLast && viewer.error.isNone then viewer.output.size else snapshot.outputSize

/-- The message at the end of the trace. -/
def endMessage (viewer : Viewer) : String :=
  viewer.error.getD "Execution finished"

/-! ## Keys -/

/-- Shows the record at an index, with the end of its output in view. -/
def moveTo (viewer : Viewer) (position : Nat) : Viewer :=
  { viewer with position := position, outputScroll := Scroll.farthest }

/-- One record forward, if there is one. -/
def forward (viewer : Viewer) : Viewer :=
  if viewer.isLast then { viewer with status := viewer.endMessage }
  else { viewer.moveTo (viewer.position + 1) with status := "Stepped forward" }

/-- One record back, if there is one. -/
def backward (viewer : Viewer) : Viewer :=
  if viewer.position = 0 then { viewer with status := "Already at the first step" }
  else { viewer.moveTo (viewer.position - 1) with status := "Stepped backward" }

/-- The last record. -/
def toEnd (viewer : Viewer) : Viewer :=
  { viewer.moveTo (viewer.trace.size - 1) with status := viewer.endMessage }

/-- The first record. -/
def toStart (viewer : Viewer) : Viewer :=
  { viewer with position := 0, status := "Jumped to start" }

/-- Stops playing. -/
def stop (viewer : Viewer) : Viewer :=
  { viewer with playing := false }

/-- Starts or stops playing. -/
def togglePlaying (viewer : Viewer) : Viewer :=
  { viewer with
    playing := !viewer.playing
    status := if viewer.playing then "Paused" else "Playing..." }

/-- Changes the offset of the pane in focus. -/
def scroll (viewer : Viewer) (change : Nat → Nat) : Viewer :=
  match viewer.focus with
  | .scopes => { viewer with scopesScroll := change viewer.scopesScroll }
  | .output => { viewer with outputScroll := change viewer.outputScroll }

/-- What a key does. -/
def press (viewer : Viewer) : Key → Viewer
  | .char 'q' | .char 'Q' | .escape => { viewer with quit := true }
  | .tab => { viewer with focus := viewer.focus.next }
  | .left => viewer.stop.backward
  | .right => viewer.stop.forward
  | .up => viewer.scroll Scroll.up
  | .down => viewer.scroll Scroll.down
  | .char ' ' => viewer.togglePlaying
  | .finish | .enter => viewer.stop.toEnd
  | .home | .backspace => viewer.stop.toStart
  | .char _ | .other => viewer

/-! ## Drawing -/

/-- The lines of output on display. -/
def shownLines (viewer : Viewer) : List String :=
  viewer.output.linesUpTo viewer.shownSize

/-- The line that is about to run. -/
def marking (viewer : Viewer) : SourcePane.Marking :=
  { line := match viewer.current with
      | none => 0
      | some snapshot => snapshot.loc.line
    isError := viewer.onError }

/-- What the status bar tells. -/
def statusBar (viewer : Viewer) : Status :=
  { message := viewer.status
    step := .ofNat viewer.position
    total := viewer.trace.size
    isError := viewer.onError
    playing := viewer.playing }

/-- Draws the viewer on a blank screen. The offsets of the panes are brought into range. -/
def draw (viewer : Viewer) (width height : Nat) : Screen × Viewer :=
  let screen := Screen.blank width height
  let (main, bar) := screen.area.splitLastRow
  let (left, right) := main.splitColumns 60
  let (upper, lower) := left.splitRows 70
  let source := SourcePane.draw screen upper viewer.source viewer.marking viewer.sourceScroll
  let output := OutputPane.draw source.screen lower viewer.shownLines
    (viewer.focus == .output) viewer.outputScroll
  let scopes := ScopesPane.draw output.screen right viewer.current
    (viewer.focus == .scopes) viewer.scopesScroll
  (viewer.statusBar.draw scopes.screen bar,
    { viewer with
      sourceScroll := source.scroll
      outputScroll := output.scroll
      scopesScroll := scopes.scroll })

end Viewer

end Stepwise
