/-!
# Limits

What a run may use: steps, nested calls and, if it is traced, memory for its trace.
-/

namespace Stepwise

/-- The limits of a run. -/
structure Limits where
  /-- The most steps that may be counted, if there is a limit. -/
  maxSteps : Option Nat
  /-- The most calls that may be active at once while the main function runs. -/
  maxDepth : Nat
  /-- The budget of the trace in bytes; a run without one is not traced. -/
  traceLimit : Option Nat
deriving DecidableEq, Repr, Inhabited

namespace Limits

/-- The usual limit on steps. -/
def usualSteps : Nat := 500000000

/-- The usual limit on nested calls. -/
def usualDepth : Nat := 10000

/-- The usual budget of a trace: 256 MiB. -/
def usualTrace : Nat := 256 * 1024 * 1024

/-- The stack, in bytes, that is meant for a run: evaluation nests with every nested statement,
expression and call. -/
def stackSize : Nat := 512 * 1024 * 1024

/-- The limits of a run without a trace. -/
def usual : Limits :=
  ⟨some usualSteps, usualDepth, none⟩

/-- The limits of a run with a trace. -/
def traced : Limits :=
  { usual with traceLimit := some usualTrace }

/-- A limit that may be missing, as the log shows it. -/
def describeOption : Option Nat → String
  | none => "None"
  | some n => s!"Some({n})"

/-- The limits as the log shows them. -/
def describe (limits : Limits) : String :=
  s!"InterpreterConfig \x7b max_steps: {describeOption limits.maxSteps}, " ++
    s!"max_call_depth: {limits.maxDepth}, " ++
    s!"trace_memory_limit: {describeOption limits.traceLimit} \x7d"

end Limits

end Stepwise
