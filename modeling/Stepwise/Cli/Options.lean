import Stepwise.Machine.Limits
import Stepwise.Text.Numeral

/-!
# Command line options

Arguments are read from left to right. Each setting may be given once, its number after an equals
sign or as the next argument; the short options of one letter may be written together. After two
dashes every argument is a file name, and there may be one file name in all.
-/

namespace Stepwise.Cli

/-- The settings that take a number. -/
inductive Setting where
  | maxSteps
  | maxDepth
  | traceLimit
deriving DecidableEq, Repr

/-- What was asked for on the command line. -/
structure Options where
  /-- The file to read instead of the standard input. -/
  file : Option String := none
  /-- The limit on steps, if it was given; zero stands for no limit. -/
  maxSteps : Option Nat := none
  /-- The limit on nested calls, if it was given. -/
  maxDepth : Option Nat := none
  /-- The budget of a trace, if it was given. -/
  traceLimit : Option Nat := none
  /-- Whether the run is to be traced and viewed. -/
  view : Bool := false
  /-- How much is logged: nothing, or up to the level of detail of this rank. -/
  verbosity : Nat := 0
deriving DecidableEq, Repr

/-- Why nothing is run. -/
inductive Stop where
  /-- The arguments make no sense. -/
  | usage
  /-- The version was asked for. -/
  | version
  /-- Help was asked for. -/
  | help
deriving DecidableEq, Repr

namespace Options

/-- The limits of the run. Only a run that is viewed is traced. -/
def limits (options : Options) : Limits :=
  { maxSteps := match options.maxSteps with
      | none => some Limits.usualSteps
      | some 0 => none
      | some n => some n
    maxDepth := options.maxDepth.getD Limits.usualDepth
    traceLimit :=
      if options.view then some (options.traceLimit.getD Limits.usualTrace) else none }

/-- Numbers are below this bound. -/
def numberBound : Nat := Nat.pow 2 64

/-- The number given for a setting. -/
def number? (options : Options) : Setting → Option Nat
  | .maxSteps => options.maxSteps
  | .maxDepth => options.maxDepth
  | .traceLimit => options.traceLimit

/-- Gives a setting its number. -/
def setNumber (options : Options) (n : Nat) : Setting → Options
  | .maxSteps => { options with maxSteps := some n }
  | .maxDepth => { options with maxDepth := some n }
  | .traceLimit => { options with traceLimit := some n }

/-- Gives a setting its number, written out, unless it already has one. -/
def set (options : Options) (setting : Setting) (text : List Char) : Except Stop Options :=
  match options.number? setting, Text.natural? numberBound text with
  | none, some n => .ok (options.setNumber n setting)
  | _, _ => .error .usage

/-- Takes a file name, unless there is one already. -/
def setFile (options : Options) (name : String) : Except Stop Options :=
  match options.file with
  | none => .ok { options with file := some name }
  | some _ => .error .usage

/-- Asks for the viewer, which can be done once. -/
def setView (options : Options) : Except Stop Options :=
  if options.view then .error .usage else .ok { options with view := true }

/-- Logs one level more. -/
def moreVerbose (options : Options) : Options :=
  { options with verbosity := options.verbosity + 1 }

end Options

/-- A long option. -/
inductive LongOption where
  | setting (setting : Setting)
  | view
  | verbose
  | version
  | help
deriving DecidableEq, Repr

/-- The long option with a name. -/
def LongOption.ofName? (name : List Char) : Option LongOption :=
  match String.ofList name with
  | "max-steps" => some (setting .maxSteps)
  | "max-depth" => some (setting .maxDepth)
  | "trace-limit" => some (setting .traceLimit)
  | "tui" => some view
  | "verbose" => some verbose
  | "version" => some version
  | "help" => some help
  | _ => none

/-- The name of a long option and, after an equals sign, its value. -/
def cutValue (text : List Char) : List Char × Option (List Char) :=
  match text.dropWhile (· != '=') with
  | [] => (text, none)
  | _ :: value => (text.takeWhile (· != '='), some value)

/-- Whether an argument is an option rather than a value: it starts with a dash and is more than
one. -/
def isOption (arg : String) : Bool :=
  match arg.toList with
  | '-' :: _ :: _ => true
  | _ => false

namespace Options

/-- Reads short options written together. -/
def readShort (options : Options) : List Char → Except Stop Options
  | [] => .ok options
  | 'v' :: cs => options.moreVerbose.readShort cs
  | 'V' :: _ => .error .version
  | 'h' :: _ => .error .help
  | _ :: _ => .error .usage

/-- Reads file names. -/
def readFiles (options : Options) : List String → Except Stop Options
  | [] => .ok options
  | name :: names => do (← options.setFile name).readFiles names

/-- Reads a long option that takes no value. -/
def readFlag (options : Options) : LongOption → Except Stop Options
  | .view => options.setView
  | .verbose => .ok options.moreVerbose
  | .version => .error .version
  | .help => .error .help
  | .setting _ => .error .usage

/-- Reads arguments from left to right. -/
def readFrom (options : Options) : List String → Except Stop Options
  | [] => .ok options
  | arg :: args =>
    match arg.toList with
    | ['-', '-'] => options.readFiles args
    | '-' :: '-' :: text =>
      match LongOption.ofName? (cutValue text).1, (cutValue text).2 with
      | none, _ => .error .usage
      | some (.setting setting), some value => do
        (← options.set setting value).readFrom args
      | some (.setting setting), none =>
        match args with
        | [] => .error .usage
        | value :: args =>
          if isOption value then .error .usage
          else do (← options.set setting value.toList).readFrom args
      | some _, some _ => .error .usage
      | some flag, none => do (← options.readFlag flag).readFrom args
    | '-' :: c :: cs => do (← options.readShort (c :: cs)).readFrom args
    | _ => do (← options.setFile arg).readFrom args

/-- Reads the arguments of the command line. -/
def ofArgs (args : List String) : Except Stop Options :=
  readFrom {} args

end Options

end Stepwise.Cli
