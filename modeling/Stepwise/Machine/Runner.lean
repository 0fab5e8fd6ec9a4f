import Stepwise.Machine.Eval

/-!
# Running programs

A runner holds a program and the machine that it runs on. It can run the program more than once:
the variables, the input that is left, the output, the count of steps and the trace carry over
from one run to the next.
-/

namespace Stepwise

/-- A program with its limits and the machine that it runs on. -/
structure Runner where
  /-- The program. Its globals are gone after one of them has failed. -/
  program : Program
  /-- The limits of each run. -/
  limits : Limits
  /-- The machine. -/
  machine : Machine
  /-- Whether a run has ended well. -/
  finished : Bool := false

namespace Runner

open Machine Exec

/-- The runner of a program before its first run. Events are kept if `logged` says so. -/
def ofProgram (program : Program) (inputs : List Int32) (limits : Limits) (logged : Bool) :
    Runner :=
  { program := program
    limits := limits
    machine :=
      { pool := .ofList inputs
        history := limits.traceLimit.map History.empty
        journal := if logged then some #[] else none } }

/-- How many loop rounds or nested calls a run prepares for. With a limit on steps that is one
more than the limit, and they cannot run out; without one it is more than any machine can
count. -/
def budget (limits : Limits) : Nat :=
  match limits.maxSteps with
  | some limit => limit + 1
  | none => Nat.pow 2 62

/-- Runs the globals one after the other, whatever their flow. -/
def runGlobals (ctx : Context) (budget : Nat) : List Node → Exec Unit
  | [] => return
  | node :: nodes => do
    let _ ← exec ctx (activate ctx budget) budget node
    runGlobals ctx budget nodes

/-- Runs the main function in the root scope. -/
def runMain (ctx : Context) (budget : Nat) (main : Routine) : Exec Unit := do
  note .mainEntered
  modify fun m => { m with routine := mainName, loc := main.loc, callDepth := 1 }
  let flow ← exec ctx (activate ctx budget) budget main.body
  match flow with
  | .returned value => note (.mainReturned value)
  | .normal => pure ()
  modify fun m => { m with callDepth := 0 }
  let m ← get
  note (.finished m.steps m.output.size)

/-- Runs the program once within a budget. -/
def runWithin (budget : Nat) (r : Runner) : Except Halt Unit × Runner :=
  match r.program.find? mainName with
  | none => (.error (.fault .noMain), r)
  | some main =>
    let ctx : Context := ⟨r.program, r.limits⟩
    match runGlobals ctx budget r.program.globals r.machine with
    | .error halt machine =>
      (.error halt, { r with program := { r.program with globals := [] }, machine := machine })
    | .ok _ machine =>
      match runMain ctx budget main machine with
      | .error halt machine => (.error halt, { r with machine := machine })
      | .ok _ machine => (.ok (), { r with machine := machine, finished := true })

/-- Runs the program once. -/
def run (r : Runner) : Except Halt Unit × Runner :=
  r.runWithin (budget r.limits)

/-- The value of a slot as seen from the root. -/
def global (r : Runner) (key : String) : Int32 :=
  r.machine.store.get 0 key

end Runner

end Stepwise
