import Stepwise.Grammar.Loading
import Stepwise.Header
import Stepwise.Machine.Runner

/-!
# Sessions

From a program text, or a whole raw input, to what its run leaves behind: the output, the trace
and the failure, if there was one.
-/

namespace Stepwise

/-- Why a session failed. -/
inductive Failure where
  /-- The raw input could not be divided. -/
  | header (fault : HeaderFault)
  /-- The text is no program. -/
  | source (fault : SyntaxFault)
  /-- The run failed. -/
  | runtime (fault : Fault)
  /-- The run was cut short before it came to an end. -/
  | cutShort
deriving DecidableEq, Repr

namespace Failure

/-- A run's halt as a failure of the session. -/
def ofHalt : Halt → Failure
  | .fault fault => runtime fault
  | .outOfBudget => cutShort

/-- The text of the error. -/
def message : Failure → String
  | header fault => fault.message
  | source fault => fault.message
  | runtime fault => s!"Runtime error: {fault.message}"
  | cutShort => "Runtime error: run cut short"

/-- The place of the error, if it has one. -/
def loc? : Failure → Option Location
  | header _ | cutShort => none
  | source fault => some fault.loc
  | runtime fault => fault.loc?

end Failure

/-- What a session leaves behind. -/
structure Execution where
  /-- What was printed, also before a failure. -/
  output : Output := {}
  /-- The trace of a traced program that could be loaded. -/
  trace : Option History := none
  /-- Why the session failed, if it did. -/
  failure : Option Failure := none
  /-- What there is to log, if events were kept. -/
  events : List Event := []

namespace Session

/-- Runs a loaded program. -/
def executeProgram (program : Program) (inputs : List Int32) (limits : Limits) (logged : Bool) :
    Execution :=
  let (outcome, runner) := (Runner.ofProgram program inputs limits logged).run
  { output := runner.machine.output
    trace := runner.machine.history
    failure := match outcome with
      | .ok _ => none
      | .error halt => some (.ofHalt halt)
    events := (runner.machine.journal.getD #[]).toList }

/-- Loads and runs a program text. -/
def executeLogged (text : String) (inputs : List Int32) (limits : Limits) (logged : Bool) :
    Execution :=
  match Token.lexProgram text with
  | .error missing => { failure := some (.source ⟨.opening missing, missing.loc⟩) }
  | .ok tokens =>
    let loading := Loading.load tokens
    let loaded := loading.read.map fun r => Event.loaded r.name r.params.length
    let execution : Execution := match loading.outcome with
      | .error fault => { failure := some (.source fault) }
      | .ok program => executeProgram program inputs limits logged
    { execution with events := Event.lexed tokens.length :: loaded ++ execution.events }

/-- Loads and runs a program text with these integers to read. -/
def execute (text : String) (inputs : List Int32) (limits : Limits) : Execution :=
  executeLogged text inputs limits false

/-- Divides a raw input and runs the program in it. -/
def executeInput (raw : String) (limits : Limits) (logged : Bool) : Execution :=
  match Header.split raw with
  | .error fault => { failure := some (.header fault) }
  | .ok header => executeLogged header.program header.inputs limits logged

/-- The text that a program prints, if it does not fail. -/
def runProgram (text : String) (inputs : List Int32) (limits : Limits) : Except Failure String :=
  let execution := execute text inputs limits
  match execution.failure with
  | some failure => .error failure
  | none => .ok execution.output.text

end Session

end Stepwise
