import Stepwise.Location
import Stepwise.Syntax.Operator

/-!
# Trees

A program is a tree of nodes. Statements and expressions share one type: every expression can
stand as a statement, and a tree that is built by hand may even put a statement where a value
is needed, which is an error when it runs.
-/

namespace Stepwise

/-- A variable with as many indices as are written after it. -/
structure Reference (α : Type) where
  /-- The name of the variable. -/
  name : String
  /-- The index expressions, outermost dimension first. -/
  indices : List α
  /-- The place of the name. -/
  loc : Location
deriving Repr, Inhabited

/-- A variable without indices. -/
def Reference.plain {α : Type} (name : String) (loc : Location) : Reference α :=
  ⟨name, [], loc⟩

/-- A statement or an expression. -/
inductive Node where
  /-- Statements one after the other. -/
  | sequence (statements : List Node)
  /-- A statement without content, or an expression that is left out. -/
  | empty
  /-- An integer. -/
  | literal (value : Int32) (loc : Location)
  /-- The value of a variable. -/
  | var (ref : Reference Node)
  /-- A call of a function by its name. -/
  | call (callee : String) (args : List Node) (loc : Location)
  /-- An operator before its operand. -/
  | unary (op : UnaryOp) (operand : Node) (loc : Location)
  /-- An operator between its operands. -/
  | binary (op : BinaryOp) (left right : Node) (loc : Location)
  /-- Stores a value, which is also the value of the whole. -/
  | assignment (target : Reference Node) (value : Node) (loc : Location)
  /-- Reads one integer into each target. -/
  | input (targets : List (Reference Node)) (loc : Location)
  /-- Prints each item. -/
  | output (items : List Node) (loc : Location)
  /-- A line break among printed items. -/
  | endl (loc : Location)
  /-- Declares a variable in the current scope. -/
  | declaration (name : String) (loc : Location)
  /-- Runs one of two branches. -/
  | ifElse (condition thenBranch : Node) (elseBranch : Option Node) (loc : Location)
  /-- Runs its body as long as the condition holds. -/
  | whileLoop (condition body : Node) (loc : Location)
  /-- A loop with a start, a condition and a step. -/
  | forLoop (init condition step body : Node) (loc : Location)
  /-- Leaves the current function with a value. -/
  | giveBack (value : Node) (loc : Location)
  /-- Runs its body in a scope of its own. -/
  | block (body : Node) (loc : Location)
deriving Repr, Inhabited

namespace Node

/-- The place of a node. Sequences and empty nodes have none. -/
def loc? : Node → Option Location
  | sequence _ | empty => none
  | var ref => some ref.loc
  | literal _ loc | call _ _ loc | unary _ _ loc | binary _ _ _ loc | assignment _ _ loc
  | input _ loc | output _ loc | endl loc | declaration _ loc | ifElse _ _ _ loc
  | whileLoop _ _ loc | forLoop _ _ _ _ loc | giveBack _ loc | block _ loc => some loc

/-- The name of a node's kind. -/
def label : Node → String
  | sequence _ => "sequence"
  | empty => "empty"
  | literal _ _ => "literal"
  | var _ => "variable"
  | call _ _ _ => "call"
  | unary _ _ _ => "unary"
  | binary _ _ _ _ => "binary"
  | assignment _ _ _ => "assignment"
  | input _ _ => "cin"
  | output _ _ => "cout"
  | endl _ => "endl"
  | declaration _ _ => "declaration"
  | ifElse _ _ _ _ => "if"
  | whileLoop _ _ _ => "while"
  | forLoop _ _ _ _ _ => "for"
  | giveBack _ _ => "return"
  | block _ _ => "block"

/-- Whether the node is the empty one. -/
def isEmpty : Node → Bool
  | empty => true
  | _ => false

end Node

end Stepwise
