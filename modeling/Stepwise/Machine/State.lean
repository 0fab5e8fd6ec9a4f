import Stepwise.Machine.Event
import Stepwise.Machine.Fault
import Stepwise.Output
import Stepwise.Pool
import Stepwise.Syntax.Program
import Stepwise.Trace

/-!
# The state of a run

The machine is everything that changes while a program runs. Actions on it either give a value or
halt, and in both cases leave a machine behind: what was printed before a fault is not lost.
-/

namespace Stepwise

/-- Everything that changes while a program runs. -/
structure Machine where
  /-- The variables. -/
  store : Store := .empty
  /-- The scope in which statements run. -/
  scope : Nat := 0
  /-- The integers to be read. -/
  pool : Pool
  /-- What has been printed. -/
  output : Output := {}
  /-- The number of steps counted so far. -/
  steps : Nat := 0
  /-- How deeply calls are nested; the main function counts as one. -/
  callDepth : Nat := 0
  /-- The function that is running. -/
  routine : String := ""
  /-- The place of the last statement that has one. -/
  loc : Location := .start
  /-- The trace, if there is one. -/
  history : Option History := none
  /-- The events of the run, if they are kept. -/
  journal : Option (Array Event) := none
deriving Inhabited

/-- Why an action gives no value. -/
inductive Halt where
  /-- The run failed. -/
  | fault (fault : Fault)
  /-- More loop rounds and calls were begun than evaluation was prepared for. This says nothing
  about the program. -/
  | outOfBudget
deriving DecidableEq, Repr

/-- What a statement did to the flow of control. -/
inductive Flow where
  /-- The next statement follows. -/
  | normal
  /-- The function ends with this value. -/
  | returned (value : Int32)
deriving DecidableEq, Repr

/-- The value that a function gives back; one that ends without a return gives back zero. -/
def Flow.value : Flow → Int32
  | normal => 0
  | returned value => value

/-- An action of the machine. -/
abbrev Exec := EStateM Halt Machine

/-- What stays fixed while a program runs. -/
structure Context where
  /-- The program, for its functions. -/
  program : Program
  /-- The limits of the run. -/
  limits : Limits

namespace Exec

/-- Fails. -/
def fail {α : Type} (fault : Fault) : Exec α :=
  throw (.fault fault)

/-- Keeps an event, if events are kept. -/
def note (event : Event) : Exec Unit :=
  modify fun m => { m with journal := m.journal.map (·.push event) }

/-- Counts a step. The step that exceeds the limit is counted too. -/
def tick (ctx : Context) : Exec Unit := do
  modify fun m => { m with steps := m.steps + 1 }
  let m ← get
  match ctx.limits.maxSteps with
  | none => return
  | some limit => if limit < m.steps then fail (.stepLimit limit m.loc)

/-- The machine as a record shows it. -/
def snapshot (statement : String) (m : Machine) : Snapshot :=
  { step := m.steps
    loc := m.loc
    statement := statement
    routine := m.routine
    callDepth := m.callDepth
    scopes := m.store.view m.scope
    outputSize := m.output.size }

/-- Adds a record to the trace, if there is one. -/
def record (statement : String) : Exec Unit := fun m =>
  match m.history with
  | none => .ok () m
  | some history =>
    let snapshot := snapshot statement m
    let needed := history.needed snapshot
    if history.limit < needed then .error (.fault (.traceMemory needed history.limit)) m
    else .ok () { m with history := m.history.map (·.add snapshot) }

/-- Begins a statement: takes over its place, counts a step and adds a record. -/
def arrive (ctx : Context) (node : Node) : Exec Unit := do
  match node.loc? with
  | some loc => modify fun m => { m with loc := loc }
  | none => pure ()
  tick ctx
  record node.label

/-- Reads a slot. -/
def load (key : String) : Exec Int32 := do
  let m ← get
  return m.store.get m.scope key

/-- Writes a slot. -/
def save (key : String) (value : Int32) : Exec Unit :=
  modify fun m => { m with store := m.store.set m.scope key value }

/-- Declares a name in the current scope. -/
def declare (name : String) : Exec Unit :=
  modify fun m => { m with store := m.store.declare m.scope name }

/-- Takes the next integer of the input. -/
def next (loc : Location) : Exec Int32 := fun m =>
  match m.pool.next? with
  | some (value, pool) => .ok value { m with pool := pool }
  | none => .error (.fault (.inputExhausted m.pool.consumed loc)) m

/-- Prints. -/
def print (put : Output → Output) : Exec Unit :=
  modify fun m => { m with output := put m.output }

/-- Runs an action and then, whether it gave a value or halted, a change of the machine. -/
def andThen {α : Type} (action : Exec α) (after : Machine → Machine) : Exec α := fun m =>
  match action m with
  | .ok a m => .ok a (after m)
  | .error halt m => .error halt (after m)

/-- Runs an action in a new scope inside the current one, and releases that scope. -/
def inScope {α : Type} (action : Exec α) : Exec α := fun m =>
  let outer := m.scope
  let inner := m.store.depth
  let m := { m with store := m.store.push outer, scope := inner }
  andThen (do note (.scopeEntered inner outer); action)
    (fun m => { m with store := m.store.pop, scope := outer }) m

/-- Runs an action as the body of a called function. -/
def inCall {α : Type} (routine : String) (action : Exec α) : Exec α := fun m =>
  let caller := m.routine
  let m := { m with routine := routine, callDepth := m.callDepth + 1 }
  andThen action (fun m => { m with routine := caller, callDepth := m.callDepth - 1 }) m

end Exec

end Stepwise
