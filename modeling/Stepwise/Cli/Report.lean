import Stepwise.Cli.Options
import Stepwise.Session
import Stepwise.Viewer

/-!
# What a command does

From the arguments and the input of a command to what it writes and the code that it exits with,
or to the viewer that it opens.
-/

namespace Stepwise.Cli

/-- What a command leaves behind. -/
structure Report where
  /-- The code that it exits with. -/
  code : Nat := 0
  /-- The bytes on its standard output. -/
  stdout : Array UInt8 := #[]
  /-- The lines on its standard error. -/
  stderr : List String := []
deriving DecidableEq, Repr

/-- Why the input cannot be read. -/
inductive ReadFault where
  /-- There is no such file. -/
  | missing
  /-- The file must not be read. -/
  | denied
  /-- The file is a directory. -/
  | directory
  /-- A part of the file's name, which is not the last, is no directory. -/
  | notDirectory
  /-- The file's name or a part of it is too long. -/
  | nameTooLong
  /-- The bytes are no text. -/
  | notText
  /-- Any other reason, in words. -/
  | other (reason : String)
deriving DecidableEq, Repr

/-- The reason in words. -/
def ReadFault.message : ReadFault → String
  | missing => "No such file or directory (os error 2)"
  | denied => "Permission denied (os error 13)"
  | directory => "Is a directory (os error 21)"
  | notDirectory => "Not a directory (os error 20)"
  | nameTooLong => "File name too long (os error 36)"
  | notText => "stream did not contain valid UTF-8"
  | other reason => reason

/-- The text of an input, if its bytes are text. -/
def inputText (bytes : ByteArray) : Except ReadFault String :=
  match String.fromUTF8? bytes with
  | some text => .ok text
  | none => .error .notText

/-- What a command comes to. -/
inductive Result where
  /-- It ends with a report. -/
  | ended (report : Report)
  /-- It writes these lines to its standard error, opens the viewer and exits with the code
  when that is left. -/
  | viewing (stderr : List String) (viewer : Viewer) (code : Nat)

/-- A line on standard error that tells of an error. -/
def errorLine (message : String) : String :=
  s!"error: {message}"

/-- The name and the version of the program. -/
def versionText : String :=
  "minicpp 0.1.0\n"

/-- How the program is used. -/
def helpLines : List String :=
  [ "A tree-walking interpreter for a tiny fixed-prologue subset of C++ " ++
      "with an execution trace viewer",
    "",
    "Usage: minicpp [OPTIONS] [FILE]",
    "",
    "Arguments:",
    "  [FILE]  Read the input from this file instead of stdin",
    "",
    "Options:",
    "      --max-steps <MAX_STEPS>      Abort after this many statements and loop iterations " ++
      s!"(0 for no limit) [default: {Limits.usualSteps}]",
    "      --max-depth <MAX_DEPTH>      Abort when user function calls nest deeper than this " ++
      s!"[default: {Limits.usualDepth}]",
    "      --tui                        Record every step and browse the run in a terminal UI",
    "      --trace-limit <TRACE_LIMIT>  Memory budget for the recorded trace, in bytes " ++
      s!"[default: {Limits.usualTrace}]",
    "  -v, --verbose...                 Log more on stderr (-v info, -vv debug, -vvv trace)",
    "  -h, --help                       Print help",
    "  -V, --version                    Print version" ]

/-- The lines of the help as one text. -/
def helpText : String :=
  String.join (helpLines.map (· ++ "\n"))

/-- The line on standard error after arguments that make no sense. -/
def usageLine : String :=
  "Usage: minicpp [OPTIONS] [FILE]"

/-- The report of a command that runs nothing. -/
def Stop.report : Stop → Report
  | usage => { code := 2, stderr := [usageLine] }
  | version => { stdout := versionText.toUTF8.data }
  | help => { stdout := helpText.toUTF8.data }

/-- The log lines of events, up to a level of detail. -/
def logLines (verbosity : Nat) (events : List Event) : List String :=
  (events.filter fun event => event.detail.rank ≤ verbosity).map Event.line

/-- What the program in an input comes to. -/
def runText (options : Options) (text : String) : Result :=
  let execution := Session.executeInput text options.limits (1 < options.verbosity)
  let log := logLines options.verbosity (.configured options.limits :: execution.events)
  let code := if execution.failure.isSome then 1 else 0
  match options.view, execution.trace with
  | true, some trace =>
    let source := match Header.split text with
      | .ok header => header.program
      | .error _ => ""
    .viewing log (.ofRun trace execution.output source (execution.failure.map Failure.message))
      code
  | _, _ =>
    .ended
      { code := code
        stdout := execution.output.bytes
        stderr := log ++ (execution.failure.map fun f => errorLine f.message).toList }

/-- What a command comes to whose input has been read. -/
def run (options : Options) (input : Except ReadFault String) : Result :=
  match input with
  | .error fault =>
    .ended { code := 1, stderr := [errorLine s!"failed to read input: {fault.message}"] }
  | .ok text => runText options text

end Stepwise.Cli
