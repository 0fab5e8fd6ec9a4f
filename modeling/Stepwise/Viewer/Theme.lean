import Stepwise.Screen.Style

/-!
# Colours of the viewer
-/

namespace Stepwise.Theme

/-- Plain text. -/
def text : Color := .rgb 205 214 244

/-- What stands back: line numbers, empty panes, key names. -/
def muted : Color := .rgb 108 112 134

/-- Brackets, scope titles and the step counter. -/
def accent : Color := .rgb 137 180 250

/-- The number of the line about to run. -/
def currentLine : Color := .rgb 250 179 135

/-- What lies behind the current line and the status bar. -/
def highlight : Color := .rgb 50 50 70

/-- The line and the message of an error. -/
def error : Color := .rgb 243 139 168

/-- Keywords. -/
def keyword : Color := .rgb 203 166 247

/-- Names of types. -/
def typeName : Color := .rgb 148 226 213

/-- Names of functions and streams. -/
def function : Color := .rgb 249 226 175

/-- Numerals and values. -/
def number : Color := .rgb 250 179 135

/-- Names that belong to the scope in which they are listed. -/
def declared : Color := .rgb 245 194 231

/-- The frame of the pane that takes the scroll keys. -/
def focusedBorder : Style :=
  { fg := some (.rgb 249 226 175), bold := true }

/-- The frame of any other pane. -/
def border : Style :=
  { fg := some muted }

/-- A style that only sets the colour of the symbol. -/
def ink (color : Color) : Style :=
  { fg := some color }

/-- A style that also makes the symbol bold. -/
def boldInk (color : Color) : Style :=
  { fg := some color, bold := true }

end Stepwise.Theme
