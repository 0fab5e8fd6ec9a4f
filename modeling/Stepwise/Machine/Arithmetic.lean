import Stepwise.Syntax.Operator

/-!
# Arithmetic

Values are 32-bit integers. Sums, differences, products and negations wrap around; quotients are
cut toward zero and remainders take the sign of the dividend. Conditions are one or zero, and
everything but zero counts as true.
-/

namespace Stepwise

/-- The value of a condition. -/
def ofCondition (b : Bool) : Int32 :=
  if b then 1 else 0

/-- The value of a unary operator. -/
def UnaryOp.apply (op : UnaryOp) (x : Int32) : Int32 :=
  match op with
  | plus => x
  | neg => -x
  | not => ofCondition (x == 0)

/-- The value of a binary operator; division by zero has none. -/
def BinaryOp.apply? (op : BinaryOp) (x y : Int32) : Option Int32 :=
  match op with
  | add => some (x + y)
  | sub => some (x - y)
  | mul => some (x * y)
  | div => if y = 0 then none else some (x / y)
  | mod => if y = 0 then none else some (x % y)
  | lt => some (ofCondition (x < y))
  | le => some (ofCondition (x ≤ y))
  | gt => some (ofCondition (y < x))
  | ge => some (ofCondition (y ≤ x))
  | eq => some (ofCondition (x == y))
  | ne => some (ofCondition (x != y))
  | xor => some (ofCondition ((x != 0) != (y != 0)))
  | and => some (ofCondition (x != 0 && y != 0))
  | or => some (ofCondition (x != 0 || y != 0))

/-- The low byte of a value. -/
def lowByte (x : Int32) : UInt8 :=
  x.toInt8.toUInt8

end Stepwise
