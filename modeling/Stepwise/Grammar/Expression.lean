import Stepwise.Grammar.Fault
import Stepwise.Syntax.Node

/-!
# Reading expressions

An expression is read from left to right with two stacks: the operators and opening brackets
that wait for what follows them, and the operands that are complete. An operator is applied as
soon as one that binds no tighter comes after it. The whole expression is treated as if it stood
between parentheses, so that its end applies everything that is left.

Priorities, from tight to loose: unary operators, then the binary ones from `*` down to `||`,
then `=`, the stream operators and the comma. Operators of one priority are applied from left to
right, except that assignments are applied from right to left.
-/

namespace Stepwise.Expression

/-! ## What waits on the stacks -/

/-- An operator that can be applied to operands. -/
inductive Operator where
  | unary (op : UnaryOp)
  | binary (op : BinaryOp)
  | assign
  | extract
  | insert
  | comma
deriving DecidableEq, Repr

namespace Operator

/-- How tightly the operator binds. -/
def priority : Operator → Nat
  | unary _ => 12
  | binary op => op.priority
  | assign => 4
  | extract => 3
  | insert => 3
  | comma => 2

/-- Whether a waiting operator is applied before `incoming` joins it. A unary operator has
nothing on its left to apply, and an assignment leaves an earlier one waiting. -/
def yieldsTo (waiting incoming : Operator) : Bool :=
  match incoming with
  | unary _ => false
  | assign => incoming.priority < waiting.priority
  | _ => incoming.priority ≤ waiting.priority

end Operator

/-- An opening bracket that waits for its closing one. -/
inductive Opener where
  /-- Parentheses that only group. -/
  | group
  /-- The parentheses of a call. -/
  | call
  /-- The brackets of an index. -/
  | index
deriving DecidableEq, Repr

/-- What may wait on the stack of operators. -/
inductive Pending where
  | opener (opener : Opener)
  | operator (op : Operator)
deriving DecidableEq, Repr

/-- What may wait on the stack of operands. -/
inductive Operand where
  /-- A complete expression. -/
  | node (node : Node)
  /-- Expressions that commas have joined. -/
  | arguments (args : List Node)
  /-- The place between two parentheses that hold nothing. -/
  | nothing

/-- The two stacks, top first, and whether the last token ended an operand. -/
structure Stacks where
  /-- Operators and opening brackets with their places. -/
  pending : List (Pending × Location)
  /-- Operands that no operator has taken yet. -/
  operands : List Operand
  /-- Whether the token before ended an operand. -/
  afterOperand : Bool

/-- A result, or what is wrong with the text. -/
abbrev Reading := Except SyntaxFault

/-! ## Applying operators -/

/-- Takes an expression off the operands. -/
def popNode (loc : Location) : List Operand → Reading (Node × List Operand)
  | .node node :: rest => .ok (node, rest)
  | _ => .error ⟨.missingOperand, loc⟩

/-- Takes a variable off the operands. -/
def popVariable (loc : Location) (operands : List Operand) :
    Reading (Reference Node × List Operand) := do
  let (node, rest) ← popNode loc operands
  match node with
  | .var ref => .ok (ref, rest)
  | _ => .error ⟨.notAVariable, loc⟩

/-- Applies an operator to the operands on top of the stack. -/
def Operator.apply (op : Operator) (loc : Location) (operands : List Operand) :
    Reading (List Operand) :=
  match op with
  | .unary op => do
    let (operand, rest) ← popNode loc operands
    return .node (.unary op operand loc) :: rest
  | .binary op => do
    let (right, rest) ← popNode loc operands
    let (left, rest) ← popNode loc rest
    return .node (.binary op left right loc) :: rest
  | .assign => do
    let (value, rest) ← popNode loc operands
    let (target, rest) ← popVariable loc rest
    return .node (.assignment target value loc) :: rest
  | .extract => do
    let (target, rest) ← popVariable loc operands
    match rest with
    | .node (.input targets at?) :: rest => return .node (.input (targets ++ [target]) at?) :: rest
    | _ => .error ⟨.strayExtract, loc⟩
  | .insert => do
    let (item, rest) ← popNode loc operands
    match rest with
    | .node (.output items at?) :: rest => return .node (.output (items ++ [item]) at?) :: rest
    | _ => .error ⟨.strayInsert, loc⟩
  | .comma => do
    let (right, rest) ← popNode loc operands
    match rest with
    | .arguments args :: rest => return .arguments (args ++ [right]) :: rest
    | .node left :: rest => return .arguments [left, right] :: rest
    | _ => .error ⟨.nothingBeforeComma, loc⟩

/-- Applies waiting operators from the top for as long as they yield, at most down to the
nearest opening bracket. -/
def unwind (yields : Operator → Bool) :
    List (Pending × Location) → List Operand →
      Reading (List (Pending × Location) × List Operand)
  | (.operator op, loc) :: pending, operands =>
    if yields op then do
      let operands ← op.apply loc operands
      unwind yields pending operands
    else .ok ((.operator op, loc) :: pending, operands)
  | pending, operands => .ok (pending, operands)

/-! ## Closing brackets -/

/-- The arguments that a call finds on the stack, and what lies below them. -/
def popArguments : List Operand → List Node × List Operand
  | .arguments args :: rest => (args, rest)
  | .node arg :: rest => ([arg], rest)
  | .nothing :: rest => ([], rest)
  | [] => ([], [])

/-- Closes a parenthesis whose content has been applied. -/
def closeParen (loc : Location) (s : Stacks) : Reading Stacks :=
  let operands := if s.afterOperand then s.operands else .nothing :: s.operands
  match s.pending with
  | (.opener .group, _) :: pending => .ok ⟨pending, operands, true⟩
  | (.opener .call, _) :: pending =>
    let (args, rest) := popArguments operands
    match rest with
    | .node (.var ⟨callee, [], at?⟩) :: rest =>
      .ok ⟨pending, .node (.call callee args at?) :: rest, true⟩
    | _ => .error ⟨.notCallable, loc⟩
  | _ => .error ⟨.unmatched .paren, loc⟩

/-- Closes an index whose content has been applied. -/
def closeIndex (loc : Location) (s : Stacks) : Reading Stacks :=
  match s.pending with
  | (.opener .index, _) :: pending => do
    let (index, rest) ← popNode loc s.operands
    match rest with
    | .node (.var ⟨name, indices, at?⟩) :: rest =>
      return ⟨pending, .node (.var ⟨name, indices ++ [index], at?⟩) :: rest, true⟩
    | _ => .error ⟨.notIndexable, loc⟩
  | _ => .error ⟨.unmatched .square, loc⟩

/-! ## Reading tokens -/

/-- What a token that is no word means in an expression. -/
inductive Symbol where
  | opener (opener : Opener)
  | operator (op : Operator)
  | closeParen
  | closeIndex
deriving DecidableEq, Repr

/-- The meaning of a symbol. After an operand a parenthesis opens a call and a sign is a binary
operator; elsewhere the parenthesis groups and the sign is a unary operator. -/
def Symbol.of? (afterOperand : Bool) (text : String) : Option Symbol :=
  if text = "(" then some (.opener (if afterOperand then .call else .group))
  else if text = "[" then some (.opener .index)
  else if text = ")" then some .closeParen
  else if text = "]" then some .closeIndex
  else if text = "+" ∧ !afterOperand then some (.operator (.unary .plus))
  else if text = "-" ∧ !afterOperand then some (.operator (.unary .neg))
  else if text = "=" then some (.operator .assign)
  else if text = ">>" then some (.operator .extract)
  else if text = "<<" then some (.operator .insert)
  else if text = "," then some (.operator .comma)
  else match UnaryOp.ofSymbol? text with
    | some op => some (.operator (.unary op))
    | none => (BinaryOp.ofSymbol? text).map fun op => .operator (.binary op)

namespace Stacks

/-- The stacks before the first token: only the parenthesis that stands for the beginning. -/
def start (loc : Location) : Stacks :=
  ⟨[(.opener .group, loc)], [], false⟩

/-- Adds a complete expression. -/
def push (s : Stacks) (node : Node) : Stacks :=
  { s with operands := .node node :: s.operands, afterOperand := true }

/-- Takes in a symbol. -/
def shift (s : Stacks) (loc : Location) : Symbol → Reading Stacks
  | .opener opener => .ok ⟨(.opener opener, loc) :: s.pending, s.operands, false⟩
  | .operator op => do
    let (pending, operands) ← unwind (·.yieldsTo op) s.pending s.operands
    return ⟨(.operator op, loc) :: pending, operands, false⟩
  | .closeParen => do
    let (pending, operands) ← unwind (fun _ => true) s.pending s.operands
    Expression.closeParen loc ⟨pending, operands, s.afterOperand⟩
  | .closeIndex => do
    let (pending, operands) ← unwind (fun _ => true) s.pending s.operands
    Expression.closeIndex loc ⟨pending, operands, s.afterOperand⟩

/-- Takes in a token. -/
def step (s : Stacks) (t : Token) : Reading Stacks :=
  if t.text = "cin" then .ok (s.push (.input [] t.loc))
  else if t.text = "cout" then .ok (s.push (.output [] t.loc))
  else if t.text = "endl" then .ok (s.push (.endl t.loc))
  else if t.isNumeral then
    match Text.int32? t.text.toList with
    | some value => .ok (s.push (.literal value t.loc))
    | none => .error ⟨.badLiteral t.text, t.loc⟩
  else if t.isWord then .ok (s.push (.var (Reference.plain t.text t.loc)))
  else match Symbol.of? s.afterOperand t.text with
    | some symbol => s.shift t.loc symbol
    | none => .error ⟨.unexpectedToken t.text, t.loc⟩

/-- Takes in tokens one after the other. -/
def steps (s : Stacks) : List Token → Reading Stacks
  | [] => .ok s
  | t :: ts => do (← s.step t).steps ts

/-- Closes the parenthesis that stands for the beginning, and takes the one operand that must
be left. -/
def finish (s : Stacks) (loc : Location) : Reading Node := do
  let s ← s.shift loc .closeParen
  match s.pending, s.operands with
  | (_, opened) :: _, _ => .error ⟨.openExpression, opened⟩
  | [], _ :: _ :: _ => .error ⟨.missingOperator, loc⟩
  | [], [.node node] => .ok node
  | [], [.arguments _] => .error ⟨.strayComma, loc⟩
  | [], _ => .error ⟨.missingExpression, loc⟩

end Stacks

/-- Reads tokens as one expression. No tokens are the empty expression. -/
def read : List Token → Reading Node
  | [] => .ok .empty
  | t :: ts => do
    let s ← (Stacks.start t.loc).steps (t :: ts)
    s.finish (ts.getLastD t).loc

end Stepwise.Expression
