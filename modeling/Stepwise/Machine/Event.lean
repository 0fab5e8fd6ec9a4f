import Stepwise.Machine.Limits
import Stepwise.Text.Numeral

/-!
# Events

What a run tells its log, and at which level of detail.
-/

namespace Stepwise

/-- The levels of detail, from coarse to fine. -/
inductive Detail where
  | info
  | debug
  | trace
deriving DecidableEq, Repr

namespace Detail

/-- How the level is named in a log line. -/
def name : Detail → String
  | info => "INFO"
  | debug => "DEBUG"
  | trace => "TRACE"

/-- The verbosity from which on a level shows. -/
def rank : Detail → Nat
  | info => 1
  | debug => 2
  | trace => 3

end Detail

/-- Something that a run tells its log. -/
inductive Event where
  /-- The run starts under these limits. -/
  | configured (limits : Limits)
  /-- The program has this many tokens. -/
  | lexed (tokens : Nat)
  /-- A function with this many parameters has been read. -/
  | loaded (routine : String) (params : Nat)
  /-- The main function starts. -/
  | mainEntered
  /-- The main function gave back a value. -/
  | mainReturned (value : Int32)
  /-- The run has ended well. -/
  | finished (steps outputSize : Nat)
  /-- A name is declared in a scope. -/
  | declared (name : String) (scope : Nat)
  /-- A function is called at this depth. -/
  | called (routine : String) (args : List Int32) (depth : Nat)
  /-- A scope has been created inside another. -/
  | scopeEntered (scope parent : Nat)
deriving DecidableEq, Repr

namespace Event

/-- The level of an event. -/
def detail : Event → Detail
  | configured _ => .info
  | lexed _ | loaded _ _ | mainEntered | mainReturned _ | finished _ _ => .debug
  | declared _ _ | called _ _ _ | scopeEntered _ _ => .trace

/-- The text of an event. -/
def message : Event → String
  | configured limits => s!"running with {limits.describe}"
  | lexed tokens => s!"lexed {tokens} tokens"
  | loaded routine params => s!"loaded function '{routine}' with {params} parameter(s)"
  | mainEntered => "entering main"
  | mainReturned value => s!"main returned {Text.decimal value}"
  | finished steps outputSize => s!"finished after {steps} steps, {outputSize} byte(s) of output"
  | declared name scope => s!"declare '{name}' in scope {scope}"
  | called routine args depth =>
    let args := ", ".intercalate (args.map Text.decimal)
    s!"call {routine}([{args}]) at depth {depth}"
  | scopeEntered scope parent => s!"entered scope {scope} (parent {parent})"

/-- The log line of an event. -/
def line (event : Event) : String :=
  s!"[{event.detail.name}] {event.message}"

end Event

end Stepwise
