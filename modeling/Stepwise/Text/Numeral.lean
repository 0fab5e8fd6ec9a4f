/-!
# Numerals

How integers are read: an optional sign and one or more ASCII digits, nothing else, and the
value must fit. Leading zeros do not matter.
-/

namespace Stepwise.Text

/-- Whether a character is one of `0` to `9`. -/
def isDigit (c : Char) : Bool :=
  '0' ≤ c && c ≤ '9'

/-- The value of digits that follow digits of value `acc`. -/
def digitsValue (acc : Nat) : List Char → Nat
  | [] => acc
  | c :: cs => digitsValue (10 * acc + (c.toNat - '0'.toNat)) cs

/-- The value of one or more digits. -/
def digits? (cs : List Char) : Option Nat :=
  if !cs.isEmpty && cs.all isDigit then some (digitsValue 0 cs) else none

/-- Reads a natural number below `bound`; a plus sign may stand before it. -/
def natural? (bound : Nat) (cs : List Char) : Option Nat :=
  let value? := match cs with
    | '+' :: ds => digits? ds
    | ds => digits? ds
  value?.bind fun n => if n < bound then some n else none

/-- An integer as a 32-bit number, when it is one. -/
def narrow? (i : Int) : Option Int32 :=
  if -2147483648 ≤ i ∧ i ≤ 2147483647 then some (Int32.ofInt i) else none

/-- Reads a 32-bit integer; a plus or a minus sign may stand before it. -/
def int32? (cs : List Char) : Option Int32 :=
  match cs with
  | '+' :: ds => (digits? ds).bind fun n => narrow? n
  | '-' :: ds => (digits? ds).bind fun n => narrow? (-n)
  | ds => (digits? ds).bind fun n => narrow? n

/-- A 32-bit integer in decimal. -/
def decimal (value : Int32) : String :=
  toString value.toInt

end Stepwise.Text
