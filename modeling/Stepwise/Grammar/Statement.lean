import Stepwise.Grammar.Declaration

/-!
# Reading statements

The first token of a statement tells its kind. The extent of each part is found first, and then
the part is read on its own, so that a fault in the extent of a body is reported before any fault
inside it.
-/

namespace Stepwise.Statement

open Expression (Reading)
open Extent (Ends)

/-- What has been read, and the tokens that follow. -/
abbrev Step := List Node × List Token

/-! ## The kinds of statements

Each kind is read from the tokens after its first one, `t`. The reader of the statements inside
is given as `inner`. -/

/-- The three parts of the header of a for loop. -/
structure ForHeader where
  /-- The first part, with the semicolon that ends it. -/
  init : List Token
  /-- The condition. -/
  condition : List Token
  /-- The step. -/
  step : List Token

/-- Divides the header of a for loop, or counts the semicolons that it has instead of two. -/
def ForHeader.of (ts : List Token) : Except Nat ForHeader :=
  match Extent.partAt ";" 0 ts with
  | none => .error 0
  | some first =>
    match Extent.partAt ";" 0 first.after with
    | none => .error 1
    | some second =>
      match Extent.countOf ";" 0 second.after with
      | 0 => .ok ⟨first.before ++ [first.mark], second.before, second.after⟩
      | more + 1 => .error (more + 3)

/-- Reads the single statement at the front as the body of a loop or a branch. -/
def body (ends : Ends) (inner : List Token → Reading (List Node)) (ts : List Token) :
    Reading (Node × List Token) := do
  let cut ← Extent.statement ends ts
  let nodes ← inner cut.front
  return (.sequence nodes, cut.rest)

/-- Reads a return statement. -/
def readReturn (t : Token) (ts : List Token) : Reading Step := do
  let p ← Extent.semicolon t.loc ts
  let value ← Expression.read p.before
  return ([.giveBack value t.loc], p.after)

/-- Reads a for loop. -/
def readFor (ends : Ends) (inner : List Token → Reading (List Node)) (t : Token)
    (ts : List Token) : Reading Step := do
  let parens ← Extent.enclosed ends.whole .paren ts
  match ForHeader.of parens.inside with
  | .error found => .error ⟨.badForHeader found, t.loc⟩
  | .ok header =>
    let init ← inner header.init
    let condition ← Expression.read header.condition
    let step ← Expression.read header.step
    let (body, rest) ← body ends inner parens.after
    return ([.forLoop (.sequence init) condition step body t.loc], rest)

/-- Reads a while loop. -/
def readWhile (ends : Ends) (inner : List Token → Reading (List Node)) (t : Token)
    (ts : List Token) : Reading Step := do
  let parens ← Extent.enclosed ends.whole .paren ts
  let condition ← Expression.read parens.inside
  let (body, rest) ← body ends inner parens.after
  return ([.whileLoop condition body t.loc], rest)

/-- Reads the else branch at the front, if there is one. -/
def readElse (ends : Ends) (inner : List Token → Reading (List Node)) :
    List Token → Reading (Option Node × List Token)
  | [] => .ok (none, [])
  | t :: ts =>
    if t.text = "else" then do
      let (branch, rest) ← body ends inner ts
      return (some branch, rest)
    else .ok (none, t :: ts)

/-- Reads an if with its branches. -/
def readIf (ends : Ends) (inner : List Token → Reading (List Node)) (t : Token)
    (ts : List Token) : Reading Step := do
  let parens ← Extent.enclosed ends.whole .paren ts
  let condition ← Expression.read parens.inside
  let cut ← Extent.bareStatement ends parens.after
  let thenBranch ← inner cut.front
  let (elseBranch, rest) ← readElse ends inner cut.rest
  return ([.ifElse condition (.sequence thenBranch) elseBranch t.loc], rest)

/-- Reads a block; the tokens start with its opening brace `t`. -/
def readBlock (ends : Ends) (inner : List Token → Reading (List Node)) (t : Token)
    (ts : List Token) : Reading Step := do
  let braces ← Extent.enclosed ends.whole .brace (t :: ts)
  let nodes ← inner braces.inside
  return ([.block (.sequence nodes) t.loc], braces.after)

/-- Reads an expression that stands as a statement; the tokens start with `t`. -/
def readExpression (t : Token) (ts : List Token) : Reading Step := do
  let p ← Extent.semicolon t.loc (t :: ts)
  let node ← Expression.read p.before
  return ([node], p.after)

/-! ## Statement lists -/

/-- Reads the statement that starts with `t`. -/
def readOne (whole : Location) (inner : List Token → Reading (List Node)) (t : Token)
    (ts : List Token) : Reading Step :=
  let ends : Ends := ⟨whole, (ts.getLastD t).loc⟩
  if t.text = "return" then readReturn t ts
  else if t.text = "for" then readFor ends inner t ts
  else if t.text = "while" then readWhile ends inner t ts
  else if t.text = "if" then readIf ends inner t ts
  else if t.text = "\x7b" then readBlock ends inner t ts
  else if t.text = "int" then Declaration.read whole t.loc ts
  else if t.text = "else" then .error ⟨.strayElse, t.loc⟩
  else readExpression t ts

/-- Reads at most `bound` statements, one inside the other or one after the other. -/
def readWithin (whole : Location) : Nat → List Token → Reading (List Node)
  | _, [] => .ok []
  | 0, t :: _ => .error ⟨.missingStatement, t.loc⟩
  | bound + 1, t :: ts => do
    let (nodes, rest) ← readOne whole (readWithin whole bound) t ts
    let more ← readWithin whole bound rest
    return nodes ++ more

/-- Reads tokens as statements. Every statement takes a token at least, so there are no more
statements than tokens. Faults at the end of all tokens are reported at `whole`. -/
def readAll (whole : Location) (ts : List Token) : Reading (List Node) :=
  readWithin whole ts.length ts

end Stepwise.Statement
