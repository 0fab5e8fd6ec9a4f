import Stepwise.Syntax.Node
import Stepwise.Text.Numeral

/-!
# Outlines

A tree written on one line: each node between parentheses with its label, its place and its
parts.
-/

namespace Stepwise

/-- A node's outline from its head and the outlines of its parts. -/
def outlineOf (label : String) (loc : Option Location) (parts : List String) : String :=
  let place := match loc with
    | some loc => [s!"{loc.line}:{loc.column}"]
    | none => []
  "(" ++ " ".intercalate (label :: place ++ parts) ++ ")"

mutual

/-- The outline of a tree. -/
def Node.outline : Node → String
  | .sequence statements => outlineOf "sequence" none (outlines statements)
  | .empty => outlineOf "empty" none []
  | .literal value loc => outlineOf "literal" (some loc) [Text.decimal value]
  | .var ref => Reference.outline ref
  | .call callee args loc => outlineOf "call" (some loc) (callee :: outlines args)
  | .unary op operand loc => outlineOf "unary" (some loc) [op.label, operand.outline]
  | .binary op left right loc =>
    outlineOf "binary" (some loc) [op.symbol, left.outline, right.outline]
  | .assignment target value loc =>
    outlineOf "assignment" (some loc) [Reference.outline target, value.outline]
  | .input targets loc => outlineOf "cin" (some loc) (referenceOutlines targets)
  | .output items loc => outlineOf "cout" (some loc) (outlines items)
  | .endl loc => outlineOf "endl" (some loc) []
  | .declaration name loc => outlineOf "declaration" (some loc) [name]
  | .ifElse condition thenBranch elseBranch loc =>
    outlineOf "if" (some loc)
      (condition.outline :: thenBranch.outline :: optionOutline elseBranch)
  | .whileLoop condition body loc => outlineOf "while" (some loc) [condition.outline, body.outline]
  | .forLoop init condition step body loc =>
    outlineOf "for" (some loc) [init.outline, condition.outline, step.outline, body.outline]
  | .giveBack value loc => outlineOf "return" (some loc) [value.outline]
  | .block body loc => outlineOf "block" (some loc) [body.outline]

/-- The outlines of several trees. -/
def outlines : List Node → List String
  | [] => []
  | node :: rest => node.outline :: outlines rest

/-- The outline of a tree that may be missing. -/
def optionOutline : Option Node → List String
  | none => []
  | some node => [node.outline]

/-- The outline of a variable with its indices. -/
def Reference.outline : Reference Node → String
  | ⟨name, indices, loc⟩ => outlineOf "variable" (some loc) (name :: outlines indices)

/-- The outlines of several variables. -/
def referenceOutlines : List (Reference Node) → List String
  | [] => []
  | ref :: rest => Reference.outline ref :: referenceOutlines rest

end

end Stepwise
