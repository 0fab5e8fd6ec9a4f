/-!
# The input pool

The integers that a program reads are given before it starts, and are taken one by one from the
front.
-/

namespace Stepwise

/-- The integers that are left, and how many have been taken. -/
structure Pool where
  /-- The integers that are left, next one first. -/
  rest : List Int32
  /-- How many have been taken. -/
  consumed : Nat := 0
deriving Repr, Inhabited

namespace Pool

/-- The pool before anything has been taken. -/
def ofList (values : List Int32) : Pool :=
  { rest := values }

/-- Takes the next integer, if one is left. -/
def next? (pool : Pool) : Option (Int32 × Pool) :=
  match pool.rest with
  | [] => none
  | value :: rest => some (value, ⟨rest, pool.consumed + 1⟩)

/-- How many integers are left. -/
def remaining (pool : Pool) : Nat :=
  pool.rest.length

end Pool

end Stepwise
