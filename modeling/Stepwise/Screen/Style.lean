/-!
# Colours and styles

A look is what a cell has: two colours and a weight. A style is what is asked for: it may leave
colours open, and what it leaves open stays as it was.
-/

namespace Stepwise

/-- A colour. -/
inductive Color where
  /-- The colour that the terminal has by itself. -/
  | reset
  | black
  | white
  /-- A colour by its parts. -/
  | rgb (red green blue : UInt8)
deriving DecidableEq, Repr, Inhabited

/-- How a cell looks. -/
structure Look where
  /-- The colour of the symbol. -/
  fg : Color := .reset
  /-- The colour behind it. -/
  bg : Color := .reset
  /-- Whether the symbol is bold. -/
  bold : Bool := false
deriving DecidableEq, Repr, Inhabited

/-- A change of looks. -/
structure Style where
  /-- The new colour of the symbol, if it changes. -/
  fg : Option Color := none
  /-- The new colour behind it, if it changes. -/
  bg : Option Color := none
  /-- Whether the symbol becomes bold. -/
  bold : Bool := false
deriving DecidableEq, Repr, Inhabited

namespace Style

/-- The look that a style makes of a look. -/
def apply (style : Style) (look : Look) : Look :=
  ⟨style.fg.getD look.fg, style.bg.getD look.bg, look.bold || style.bold⟩

/-- One style and then another, as one style. -/
def andThen (first second : Style) : Style :=
  ⟨second.fg <|> first.fg, second.bg <|> first.bg, first.bold || second.bold⟩

end Style

end Stepwise
