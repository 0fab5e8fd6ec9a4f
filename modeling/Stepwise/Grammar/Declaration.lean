import Stepwise.Grammar.Extent
import Stepwise.Grammar.Expression

/-!
# Reading declarations

A declaration names variables, separated by commas. Sizes in brackets after a name are passed
over, whatever they hold; a value after an equals sign becomes an assignment that follows the
declaration.
-/

namespace Stepwise.Declaration

open Expression (Reading)

/-- The text of a token that has to be a name. -/
def name (t : Token) : Reading String :=
  if t.isName then .ok t.text else .error ⟨.notAName t.text, t.loc⟩

/-- Passes over the sizes in brackets at the front. -/
def skipSizes (whole : Location) (ts : List Token) : Reading (List Token) :=
  match ts with
  | [] => .ok []
  | t :: ts =>
    if t.text = "[" then
      match _h : Extent.enclosed whole .square (t :: ts) with
      | .error fault => .error fault
      | .ok size => skipSizes whole size.after
    else .ok (t :: ts)
termination_by ts.length
decreasing_by exact Extent.length_after_lt _h

/-- The assignment of an initial value, the tokens after the name and its sizes being given. -/
def initializer (first : Token) : List Token → Reading (List Node)
  | [] => .ok []
  | t :: value =>
    if t.text = "=" then
      if value.isEmpty then .error ⟨.missingInitializer first.text, t.loc⟩
      else do
        let value ← Expression.read value
        return [.assignment (Reference.plain first.text first.loc) value t.loc]
    else .error ⟨.badDeclarator t.text first.text, t.loc⟩

/-- Reads one name with its sizes and its initial value. A missing name is reported at `loc`. -/
def declarator (whole loc : Location) : List Token → Reading (List Node)
  | [] => .error ⟨.missingDeclarator, loc⟩
  | first :: ts => do
    let name ← name first
    let rest ← skipSizes whole ts
    let assigned ← initializer first rest
    return .declaration name first.loc :: assigned

/-- Reads declarators one after the other. -/
def declarators (whole loc : Location) : List (List Token) → Reading (List Node)
  | [] => .ok []
  | piece :: pieces => do
    let nodes ← declarator whole loc piece
    let more ← declarators whole loc pieces
    return nodes ++ more

/-- Reads a declaration whose type is at `loc` and whose names begin the tokens; gives its nodes
and the tokens after it. -/
def read (whole loc : Location) (ts : List Token) : Reading (List Node × List Token) := do
  let p ← Extent.semicolon loc ts
  let nodes ← declarators whole loc (Extent.splitAt "," 0 p.before)
  return (nodes, p.after)

end Stepwise.Declaration
