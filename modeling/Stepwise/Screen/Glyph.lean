import Stepwise.Screen.Style
import Stepwise.Text.Cluster
import Stepwise.Text.Width

/-!
# Spans and glyphs

Text to be drawn comes as spans of one style each. It is drawn glyph by glyph; a glyph is a
cluster with its style.
-/

namespace Stepwise

/-- A text in one style. -/
structure Span where
  /-- The text. -/
  text : String
  /-- Its style. -/
  style : Style := {}
deriving DecidableEq, Repr, Inhabited

/-- What is drawn at one place. -/
structure Glyph where
  /-- The symbol. -/
  symbol : String
  /-- The number of cells that it takes. -/
  width : Nat
  /-- Its style. -/
  style : Style := {}
deriving DecidableEq, Repr, Inhabited

namespace Span

/-- The number of cells that the text of a span takes as a whole; its glyphs, each on its own, may
take more. -/
def width (span : Span) : Nat :=
  Text.width span.text.toList

/-- The glyphs of a span. Line feeds are not drawn. -/
def glyphs (span : Span) : List Glyph :=
  ((Text.clusters span.text.toList).filter (· != ['\n'])).map fun cluster =>
    ⟨String.ofList cluster, Text.width cluster, span.style⟩

end Span

namespace Glyph

/-- The number of cells that glyphs take together. -/
def totalWidth (glyphs : List Glyph) : Nat :=
  (glyphs.map (·.width)).foldr (· + ·) 0

/-- The longest beginning of the glyphs that fits the room. -/
def fit (room : Nat) : List Glyph → List Glyph
  | [] => []
  | glyph :: glyphs =>
    if glyph.width ≤ room then glyph :: fit (room - glyph.width) glyphs else []

end Glyph

/-- The glyphs of a line of flowing text that are drawn in a room. Those that take no cell or are
wider than all of the room are left out, and the line is cut before the first that does not fit
what is left. -/
def Span.flowing (room : Nat) (spans : List Span) : List Glyph :=
  Glyph.fit room ((spans.flatMap Span.glyphs).filter fun glyph =>
    0 < glyph.width && glyph.width ≤ room)

end Stepwise
