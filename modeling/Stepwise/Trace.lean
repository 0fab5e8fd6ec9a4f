import Stepwise.Location
import Stepwise.Store

/-!
# Traces

A trace records the state of a run before each statement, as long as the records fit a budget of
bytes.
-/

namespace Stepwise

/-- One scope as a record shows it. -/
structure ScopeView where
  /-- The index of the scope. -/
  depth : Nat
  /-- The keys below that are names declared in the scope itself. -/
  declaredHere : List String
  /-- The values by key, in the order of the keys. -/
  values : List (String × Int32)
deriving DecidableEq, Repr, Inhabited

/-- How a scope shows in a record. -/
def Scope.view (scope : Scope) (id : Nat) : ScopeView :=
  let values := scope.values.toList
  { depth := id
    declaredHere := (values.map (·.1)).filter scope.isDeclared
    values := values }

/-- The scopes seen from the scope `id`, innermost first. -/
def Store.view (store : Store) (id : Nat) : List ScopeView :=
  ((store.chain? id).getD []).filterMap fun id => store.scopes[id]?.map (·.view id)

/-- The state of a run right before a statement. -/
structure Snapshot where
  /-- The number of steps counted so far, the one of this statement included. -/
  step : Nat
  /-- The place of the statement, or of the last one that has a place. -/
  loc : Location
  /-- The kind of the statement. -/
  statement : String
  /-- The function that is running. -/
  routine : String
  /-- How deeply calls are nested. -/
  callDepth : Nat
  /-- The scopes in view, innermost first. -/
  scopes : List ScopeView
  /-- The number of bytes printed before. -/
  outputSize : Nat
deriving DecidableEq, Repr, Inhabited

namespace Snapshot

/-- The number of values that a record holds. -/
def valueCount (s : Snapshot) : Nat :=
  (s.scopes.map fun scope => scope.values.length).foldr (· + ·) 0

/-- The bytes that a record is counted with: a fixed part, the function's name, and a share for
each value. -/
def cost (s : Snapshot) : Nat :=
  104 + s.routine.utf8ByteSize + 32 * s.valueCount

end Snapshot

/-- The records of a run under a budget. -/
structure History where
  /-- The records in order. -/
  snapshots : Array Snapshot := #[]
  /-- The budget in bytes. -/
  limit : Nat
  /-- The bytes that the records are counted with. -/
  used : Nat := 0
deriving Repr, Inhabited

namespace History

/-- The history with a budget and no records. -/
def empty (limit : Nat) : History :=
  { limit := limit }

/-- The number of records. -/
def size (history : History) : Nat :=
  history.snapshots.size

/-- The record at an index. -/
def get? (history : History) (index : Nat) : Option Snapshot :=
  history.snapshots[index]?

/-- The bytes that the records would be counted with, had this one been added. -/
def needed (history : History) (snapshot : Snapshot) : Nat :=
  history.used + snapshot.cost

/-- Adds a record, whatever the budget. -/
def add (history : History) (snapshot : Snapshot) : History :=
  { history with
    snapshots := history.snapshots.push snapshot
    used := history.used + snapshot.cost }

/-- Adds a record, or tells how many bytes it would have taken in all. -/
def push (history : History) (snapshot : Snapshot) : Except Nat History :=
  let needed := history.needed snapshot
  if history.limit < needed then .error needed else .ok (history.add snapshot)

end History

end Stepwise
