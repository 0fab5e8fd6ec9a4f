import Stepwise.Text.Numeral

/-!
# Slots

A value is kept under a key: the name of its variable, followed by each index in brackets. So
equal indices always mean the same slot, whatever sizes were declared, and no size is ever
checked.
-/

namespace Stepwise.Slot

/-- An index as it is written in a key. -/
def indexText (index : Int32) : String :=
  "[" ++ Text.decimal index ++ "]"

/-- The key of a variable at these indices. -/
def key (name : String) (indices : List Int32) : String :=
  name ++ String.join (indices.map indexText)

/-- The name that a key begins with: all before its first bracket. -/
def base (key : String) : String :=
  String.ofList (key.toList.takeWhile (· != '['))

end Stepwise.Slot
