import Stepwise.Grammar.Loading

/-!
# Reading by positions

The grammar is read here a second time, by positions into one list of tokens. A search gives the
position that it has found, a reader is given the position where it begins and gives the one where it
stops, and what stands inside something else is a piece of the list between two positions.

Nothing is assumed of a position. A token that is taken without a question has to be there, the ends of
a piece have to be in order and within the list, a count must not fall below zero, and whoever goes on
has to go on further behind, or with fewer tokens. Where one of these does not hold, the reader slips,
and that is an outcome of its own. So all functions end, but it is left to be proved that they never
slip, and that they read what the readers of lists read.
-/

namespace Stepwise.Position

open Expression (Reading)

/-! ## Section 1: Checks -/

/-- What a reader by positions must not do. -/
inductive Slip where
  /-- A token is taken where there is none. -/
  | noToken (position length : Nat)
  /-- A piece is taken whose ends are in the wrong order, or not within the list. -/
  | noPiece (lo hi length : Nat)
  /-- A bracket is closed though none is open. -/
  | belowZero
  /-- A loop or a search goes on without having moved. -/
  | noAdvance (position next : Nat)
  /-- What stands inside some tokens is no shorter than they are. -/
  | noDescent (outer inner : Nat)
deriving DecidableEq, Repr

/-- Why a reader stops early. -/
inductive Stop where
  /-- Something is wrong with the text. -/
  | fault (fault : SyntaxFault)
  /-- Something is wrong with the reader. -/
  | slip (slip : Slip)
deriving DecidableEq, Repr

/-- A result, or why there is none. -/
abbrev Checked := Except Stop

variable {α : Type}

/-- A reading that takes no positions, and so cannot slip. -/
def ofReading (x : Reading α) : Checked α :=
  x.mapError .fault

/-- What is wrong with the text. -/
def refuse (cause : SyntaxCause) (loc : Location) : Checked α :=
  .error (.fault ⟨cause, loc⟩)

/-- The token at a position. -/
def tokenAt (ts : List Token) (i : Nat) : Checked Token :=
  match ts[i]? with
  | some t => .ok t
  | none => .error (.slip (.noToken i ts.length))

/-- The tokens from the position `lo` up to the position `hi`. -/
def piece (ts : List Token) (lo hi : Nat) : Checked (List Token) :=
  if lo ≤ hi ∧ hi ≤ ts.length then .ok ((ts.take hi).drop lo)
  else .error (.slip (.noPiece lo hi ts.length))

/-- One less. -/
def decrement : Nat → Checked Nat
  | 0 => .error (.slip .belowZero)
  | n + 1 => .ok n

/-- Goes on at a later position. -/
def onward (i next : Nat) (go : i < next → Checked α) : Checked α :=
  if h : i < next then go h else .error (.slip (.noAdvance i next))

/-- Goes on with fewer tokens. -/
def inward (outer inner : Nat) (go : inner < outer → Checked α) : Checked α :=
  if h : inner < outer then go h else .error (.slip (.noDescent outer inner))

/-! ## Section 2: Searches -/

/-- The positions of the tokens `separator` outside brackets; the first token is at `i`. -/
def marksFrom (separator : String) (depth i : Nat) : List Token → List Nat
  | [] => []
  | t :: ts =>
    if t.text = separator ∧ depth = 0 then i :: marksFrom separator depth (i + 1) ts
    else marksFrom separator (Extent.depthAfter depth t) (i + 1) ts

/-- The position of the semicolon that ends a statement; a missing one is reported at `loc`. -/
def semicolon (loc : Location) (ts : List Token) (start : Nat) : Checked Nat :=
  match marksFrom ";" 0 start (ts.drop start) with
  | mark :: _ => .ok mark
  | [] => refuse .missingSemicolon loc

/-- The position of the closing bracket that leaves none open, `depth` being open before; the first
token is at `i`. -/
def closerFrom (bracket : Bracket) (depth i : Nat) : List Token → Checked (Option Nat)
  | [] => .ok none
  | t :: ts =>
    if t.text = bracket.opener then closerFrom bracket (depth + 1) (i + 1) ts
    else if t.text = bracket.closer then do
      let depth ← decrement depth
      if depth = 0 then .ok (some i) else closerFrom bracket depth (i + 1) ts
    else closerFrom bracket depth (i + 1) ts

/-- The position of the bracket that closes the one at `start`. -/
def closer (whole : Location) (bracket : Bracket) (ts : List Token) (start : Nat) : Checked Nat :=
  match ts[start]? with
  | none => refuse (.missingOpener bracket) whole
  | some t =>
    if t.text = bracket.opener then do
      match ← closerFrom bracket 0 start (ts.drop start) with
      | some close => .ok close
      | none => do
        let opener ← tokenAt ts start
        refuse (.unclosed bracket) opener.loc
    else refuse (.missingOpener bracket) t.loc

/-- Where a missing statement is reported: the last token, or the end of all tokens. -/
def endOf (whole : Location) (ts : List Token) : Location :=
  match ts.getLast? with
  | some t => t.loc
  | none => whole

/-- The position of the last token of the statement at `start`, without an `else` that follows it. -/
def bareStatementEnd (whole : Location) (ts : List Token) (start : Nat) : Checked Nat :=
  match _h : ts[start]? with
  | none => refuse .missingStatement (endOf whole ts)
  | some t =>
    if t.text = "\x7b" then closer whole .brace ts start
    else if t.text = "if" ∨ t.text = "for" ∨ t.text = "while" then do
      let close ← closer whole .paren ts (start + 1)
      onward start (close + 1) fun _ => bareStatementEnd whole ts (close + 1)
    else semicolon t.loc ts start
termination_by ts.length - start
decreasing_by
  have hstart := (List.getElem?_eq_some_iff.mp _h).1
  omega

/-- The position of the last token of the statement at `start`, an `else` that belongs to it
included. -/
def statementEnd (whole : Location) (ts : List Token) (start : Nat) : Checked Nat :=
  match _h : ts[start]? with
  | none => refuse .missingStatement (endOf whole ts)
  | some t =>
    if t.text = "\x7b" then closer whole .brace ts start
    else if t.text = "for" ∨ t.text = "while" then do
      let close ← closer whole .paren ts (start + 1)
      onward start (close + 1) fun _ => statementEnd whole ts (close + 1)
    else if t.text = "if" then do
      let last ← bareStatementEnd whole ts start
      match ts[last + 1]? with
      | some next =>
        if next.text = "else" then
          onward start (last + 2) fun _ => statementEnd whole ts (last + 2)
        else .ok last
      | none => .ok last
    else semicolon t.loc ts start
termination_by ts.length - start
decreasing_by
  all_goals
    have hstart := (List.getElem?_eq_some_iff.mp _h).1
    omega

/-! ## Section 3: Declarations -/

/-- The pieces of `ts` between the tokens `separator` outside brackets; the piece at hand begins at
`start`, and the tokens still to come begin at `i`. -/
def splitFrom (separator : String) (ts : List Token) (depth start i : Nat) :
    List Token → Checked (List (List Token))
  | [] => do
    let last ← piece ts start ts.length
    return [last]
  | t :: more =>
    if t.text = separator ∧ depth = 0 then do
      let first ← piece ts start i
      let others ← splitFrom separator ts depth (i + 1) (i + 1) more
      return first :: others
    else splitFrom separator ts (Extent.depthAfter depth t) start (i + 1) more

/-- The position behind the sizes in brackets at `k`. -/
def sizesEnd (whole : Location) (ts : List Token) (k : Nat) : Checked Nat :=
  match _h : ts[k]? with
  | none => .ok k
  | some t =>
    if t.text = "[" then do
      let close ← closer whole .square ts k
      onward k (close + 1) fun _ => sizesEnd whole ts (close + 1)
    else .ok k
termination_by ts.length - k
decreasing_by
  have hk := (List.getElem?_eq_some_iff.mp _h).1
  omega

/-- The assignment of an initial value, which begins at the position `k`. -/
def initializer (first : Token) (ts : List Token) (k : Nat) : Checked (List Node) :=
  match ts[k]? with
  | none => .ok []
  | some t =>
    if t.text = "=" then do
      let value ← piece ts (k + 1) ts.length
      if value.isEmpty then refuse (.missingInitializer first.text) t.loc
      else do
        let value ← ofReading (Expression.read value)
        return [.assignment (Reference.plain first.text first.loc) value t.loc]
    else refuse (.badDeclarator t.text first.text) t.loc

/-- Reads one name with its sizes and its initial value. -/
def declarator (whole loc : Location) (ts : List Token) : Checked (List Node) :=
  match ts[0]? with
  | none => refuse .missingDeclarator loc
  | some first => do
    let name ← ofReading (Declaration.name first)
    let k ← sizesEnd whole ts 1
    let assigned ← initializer first ts k
    return .declaration name first.loc :: assigned

/-- Reads declarators one after the other. -/
def declarators (whole loc : Location) : List (List Token) → Checked (List Node)
  | [] => .ok []
  | first :: others => do
    let nodes ← declarator whole loc first
    let more ← declarators whole loc others
    return nodes ++ more

/-- Reads the declaration at `start`; gives its nodes and the position behind it. -/
def declaration (whole : Location) (ts : List Token) (start : Nat) :
    Checked (List Node × Nat) := do
  let t ← tokenAt ts start
  let last ← semicolon t.loc ts (start + 1)
  let names ← piece ts (start + 1) last
  let pieces ← splitFrom "," names 0 0 0 names
  let nodes ← declarators whole t.loc pieces
  return (nodes, last + 1)

/-! ## Section 4: Statements

The reader of what stands inside a statement is given as `inner`. -/

/-- Reads the single statement at `start` as the body of a loop or a branch. -/
def body (whole : Location) (inner : List Token → Checked (List Node)) (ts : List Token)
    (start : Nat) : Checked (Node × Nat) := do
  let last ← statementEnd whole ts start
  let inside ← piece ts start (last + 1)
  let nodes ← inner inside
  return (.sequence nodes, last + 1)

/-- Reads the return statement at `start`. -/
def readReturn (t : Token) (ts : List Token) (start : Nat) : Checked (List Node × Nat) := do
  let last ← semicolon t.loc ts (start + 1)
  let value ← piece ts (start + 1) last
  let value ← ofReading (Expression.read value)
  return ([.giveBack value t.loc], last + 1)

/-- Reads the for loop at `start`. -/
def readFor (whole : Location) (inner : List Token → Checked (List Node)) (ts : List Token)
    (start : Nat) : Checked (List Node × Nat) := do
  let t ← tokenAt ts start
  let close ← closer whole .paren ts (start + 1)
  match marksFrom ";" 0 (start + 2) ((ts.take close).drop (start + 2)) with
  | [first, second] => do
    let init ← piece ts (start + 2) (first + 1)
    let init ← inner init
    let condition ← piece ts (first + 1) second
    let condition ← ofReading (Expression.read condition)
    let step ← piece ts (second + 1) close
    let step ← ofReading (Expression.read step)
    let (body, next) ← body whole inner ts (close + 1)
    return ([.forLoop (.sequence init) condition step body t.loc], next)
  | marks => refuse (.badForHeader marks.length) t.loc

/-- Reads the while loop at `start`. -/
def readWhile (whole : Location) (inner : List Token → Checked (List Node)) (t : Token)
    (ts : List Token) (start : Nat) : Checked (List Node × Nat) := do
  let close ← closer whole .paren ts (start + 1)
  let condition ← piece ts (start + 2) close
  let condition ← ofReading (Expression.read condition)
  let (body, next) ← body whole inner ts (close + 1)
  return ([.whileLoop condition body t.loc], next)

/-- Reads the else branch at `start`, if there is one. -/
def readElse (whole : Location) (inner : List Token → Checked (List Node)) (ts : List Token)
    (start : Nat) : Checked (Option Node × Nat) :=
  match ts[start]? with
  | some t =>
    if t.text = "else" then do
      let (branch, next) ← body whole inner ts (start + 1)
      return (some branch, next)
    else .ok (none, start)
  | none => .ok (none, start)

/-- Reads the if at `start` with its branches. -/
def readIf (whole : Location) (inner : List Token → Checked (List Node)) (t : Token)
    (ts : List Token) (start : Nat) : Checked (List Node × Nat) := do
  let close ← closer whole .paren ts (start + 1)
  let condition ← piece ts (start + 2) close
  let condition ← ofReading (Expression.read condition)
  let last ← bareStatementEnd whole ts (close + 1)
  let thenBranch ← piece ts (close + 1) (last + 1)
  let thenBranch ← inner thenBranch
  let (elseBranch, next) ← readElse whole inner ts (last + 1)
  return ([.ifElse condition (.sequence thenBranch) elseBranch t.loc], next)

/-- Reads the block at `start`. -/
def readBlock (whole : Location) (inner : List Token → Checked (List Node)) (t : Token)
    (ts : List Token) (start : Nat) : Checked (List Node × Nat) := do
  let close ← closer whole .brace ts start
  let inside ← piece ts (start + 1) close
  let nodes ← inner inside
  return ([.block (.sequence nodes) t.loc], close + 1)

/-- Reads the expression at `start` that stands as a statement. -/
def readExpression (t : Token) (ts : List Token) (start : Nat) : Checked (List Node × Nat) := do
  let last ← semicolon t.loc ts start
  let node ← piece ts start last
  let node ← ofReading (Expression.read node)
  return ([node], last + 1)

/-- Reads the statement at `start`; gives its nodes and the position behind it. -/
def readOne (whole : Location) (inner : List Token → Checked (List Node)) (ts : List Token)
    (start : Nat) : Checked (List Node × Nat) := do
  let t ← tokenAt ts start
  if t.text = "return" then readReturn t ts start
  else if t.text = "for" then readFor whole inner ts start
  else if t.text = "while" then readWhile whole inner t ts start
  else if t.text = "if" then readIf whole inner t ts start
  else if t.text = "\x7b" then readBlock whole inner t ts start
  else if t.text = "int" then declaration whole ts start
  else if t.text = "else" then refuse .strayElse t.loc
  else readExpression t ts start

/-- Reads the statements from the position `i` on. -/
def statementsFrom (whole : Location) (ts : List Token) (i : Nat) : Checked (List Node) :=
  if i < ts.length then do
    let inner : List Token → Checked (List Node) := fun inside =>
      inward ts.length inside.length fun _ => statementsFrom whole inside 0
    let (nodes, next) ← readOne whole inner ts i
    let more ← onward i next fun _ => statementsFrom whole ts next
    return nodes ++ more
  else .ok []
termination_by (ts.length, ts.length - i)

/-- Reads tokens as statements. -/
def statements (whole : Location) (ts : List Token) : Checked (List Node) :=
  statementsFrom whole ts 0

/-! ## Section 5: Programs -/

/-- Reads the parameters of the function `name`, which stand in the parentheses at `start` and
`close`. -/
def params (name : String) (ts : List Token) (start close : Nat) : Checked (List String) := do
  let inside ← piece ts (start + 1) close
  if inside.isEmpty then .ok []
  else do
    let paren ← tokenAt ts close
    ofReading (Loading.parameters name paren.loc (Loading.pieces inside))

/-- The position of the brace that closes the body of the function `name`; the one that opens it has to
be at `k`. -/
def bodyCloser (whole : Location) (name : String) (ts : List Token) (k : Nat) : Checked Nat :=
  match ts[k]? with
  | none => refuse (.missingBody name) whole
  | some t =>
    if t.text = "\x7b" then closer whole .brace ts k else refuse (.missingBody name) t.loc

/-- Reads the function at `start`; gives it and the position behind it. -/
def routine (whole : Location) (ts : List Token) (start : Nat) : Checked (Routine × Nat) := do
  let first ← tokenAt ts (start + 1)
  let name ← ofReading (Declaration.name first)
  let close ← closer whole .paren ts (start + 2)
  let params ← params name ts (start + 2) close
  let last ← bodyCloser whole name ts (close + 1)
  let inside ← piece ts (close + 2) last
  let body ← statements whole inside
  return (⟨name, params, .sequence body, first.loc⟩, last + 1)

/-- Loads the items from the position `i` on into a program. -/
def itemsFrom (whole : Location) (ts : List Token) (program : Program) (i : Nat) :
    Checked Program :=
  if i < ts.length then do
    let t ← tokenAt ts i
    if t.text = "int" then
      if (ts[i + 2]?).any fun u => u.text = "(" then do
        let (routine, next) ← routine whole ts i
        if (program.find? routine.name).isSome then refuse (.duplicate routine.name) routine.loc
        else onward i next fun _ => itemsFrom whole ts (program.define routine) next
      else do
        let (nodes, next) ← declaration whole ts i
        onward i next fun _ => itemsFrom whole ts (program.addGlobals nodes) next
    else refuse (.badItem t.text) t.loc
  else .ok program
termination_by ts.length - i

/-- The program of these tokens. -/
def program (ts : List Token) : Checked Program :=
  itemsFrom (Loading.endOf ts) ts {} 0

end Stepwise.Position
