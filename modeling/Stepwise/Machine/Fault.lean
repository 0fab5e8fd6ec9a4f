import Stepwise.Location

/-!
# Faults of a run

Every way in which a run can fail. A fault ends the run; what was printed before it stays.
-/

namespace Stepwise

/-- Why a run failed. -/
inductive Fault where
  /-- The program read more integers than there were. -/
  | inputExhausted (consumed : Nat) (loc : Location)
  /-- A function that does not exist was called. -/
  | undefinedRoutine (name : String) (loc : Location)
  /-- The program has no main function. -/
  | noMain
  /-- A function was called with the wrong number of arguments. -/
  | argumentCount (name : String) (expected found : Nat) (loc : Location)
  /-- The right operand of a division or a remainder was zero. -/
  | divisionByZero (loc : Location)
  /-- The run took more steps than it may. -/
  | stepLimit (limit : Nat) (loc : Location)
  /-- Calls were nested more deeply than they may. -/
  | callDepth (limit : Nat) (loc : Location)
  /-- The trace needed more memory than it may. -/
  | traceMemory (needed limit : Nat)
  /-- A statement stood where a value was needed. -/
  | statementAsValue (statement : String) (loc : Location)
deriving DecidableEq, Repr

namespace Fault

/-- The words for what went wrong. -/
def message : Fault → String
  | inputExhausted consumed loc =>
    s!"Input exhausted at {loc.describe}: 'cin' needed value #{consumed + 1} " ++
      s!"but only {consumed} were supplied"
  | undefinedRoutine name loc => s!"Call to undefined function '{name}' at {loc.describe}"
  | noMain => "No main() function found"
  | argumentCount name expected found loc =>
    s!"Function '{name}' expects {expected} argument(s) but was given {found} " ++
      s!"at {loc.describe}"
  | divisionByZero loc => s!"Division by zero at {loc.describe}"
  | stepLimit limit loc => s!"Step limit of {limit} exceeded at {loc.describe}"
  | callDepth limit loc => s!"Call depth limit of {limit} exceeded at {loc.describe}"
  | traceMemory needed limit =>
    s!"Trace memory limit exceeded: {needed} bytes needed, limit is {limit} bytes"
  | statementAsValue statement loc =>
    s!"'{statement}' cannot be used as a value at {loc.describe}"

/-- The place of a fault, if it has one. -/
def loc? : Fault → Option Location
  | inputExhausted _ loc | undefinedRoutine _ loc | argumentCount _ _ _ loc | divisionByZero loc
  | stepLimit _ loc | callDepth _ loc | statementAsValue _ loc => some loc
  | noMain | traceMemory _ _ => none

end Fault

end Stepwise
