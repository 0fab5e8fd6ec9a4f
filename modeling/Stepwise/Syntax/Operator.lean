/-!
# Operators

The unary and binary operators of expressions, with the symbols that they are written with.
A prefix plus or minus also has the doubled spellings `++` and `--`, which mean the same here.
-/

namespace Stepwise

/-- An operator between two operands. -/
inductive BinaryOp where
  | add
  | sub
  | mul
  | div
  | mod
  | lt
  | le
  | gt
  | ge
  | eq
  | ne
  | xor
  | and
  | or
deriving DecidableEq, Repr, Inhabited

/-- An operator before one operand. -/
inductive UnaryOp where
  | plus
  | neg
  | not
deriving DecidableEq, Repr, Inhabited

namespace BinaryOp

/-- Every binary operator. -/
def all : List BinaryOp :=
  [add, sub, mul, div, mod, lt, le, gt, ge, eq, ne, xor, and, or]

/-- How the operator is written. -/
def symbol : BinaryOp → String
  | add => "+"
  | sub => "-"
  | mul => "*"
  | div => "/"
  | mod => "%"
  | lt => "<"
  | le => "<="
  | gt => ">"
  | ge => ">="
  | eq => "=="
  | ne => "!="
  | xor => "^"
  | and => "&&"
  | or => "||"

/-- The operator written as `text`. -/
def ofSymbol? (text : String) : Option BinaryOp :=
  all.find? fun op => op.symbol == text

/-- How tightly the operator binds; a higher number binds tighter. -/
def priority : BinaryOp → Nat
  | mul | div | mod => 11
  | add | sub => 10
  | lt | le | gt | ge => 9
  | eq | ne => 8
  | xor => 7
  | and => 6
  | or => 5

end BinaryOp

namespace UnaryOp

/-- The spelling that means the unary operator wherever it stands. -/
def symbol : UnaryOp → String
  | plus => "++"
  | neg => "--"
  | not => "!"

/-- The name of the operator in the outline of a tree. -/
def label : UnaryOp → String
  | plus => "plus"
  | neg => "neg"
  | not => "not"

/-- The operator that `text` means wherever it stands. -/
def ofSymbol? (text : String) : Option UnaryOp :=
  [plus, neg, not].find? fun op => op.symbol == text

end UnaryOp

end Stepwise
