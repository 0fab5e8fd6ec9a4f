import Stepwise.Cli.Report

/-!
# The command

Reads the input, runs it and writes what it comes to. The viewer is driven from the standard
input: each line names keys, blanks apart, and an empty line is a step forward.
-/

namespace Stepwise.Cli

/-- Reads all bytes of a stream. -/
partial def readAll (stream : IO.FS.Stream) (done : ByteArray) : IO ByteArray := do
  let chunk ← stream.read 65536
  if chunk.isEmpty then return done else readAll stream (done ++ chunk)

/-- Reads the input of a command. -/
def readInput (options : Options) : IO (Except ReadFault String) := do
  try
    let bytes ← match options.file with
      | some name => IO.FS.readBinFile name
      | none => readAll (← IO.getStdin) .empty
    return inputText bytes
  catch
    | .noFileOrDirectory .. => return .error .missing
    | .permissionDenied .. => return .error .denied
    | .inappropriateType _ 20 _ => return .error .notDirectory
    | .inappropriateType .. => return .error .directory
    | .invalidArgument _ 36 _ => return .error .nameTooLong
    | fault => return .error (.other (toString fault))

/-- Shows the viewer until it is left or there are no more keys. -/
partial def view (viewer : Viewer) : IO Unit := do
  let (screen, viewer) := viewer.draw 100 30
  for row in screen.rows do
    IO.println (String.join (row.map (·.symbol)))
  if viewer.quit then return
  let line ← (← IO.getStdin).getLine
  if line.isEmpty then return
  let names := (line.split Char.isWhitespace).toList.map (·.toString) |>.filter (!·.isEmpty)
  let keys := if names.isEmpty then [Key.right] else names.map Key.ofName
  view (keys.foldl Viewer.press viewer)

/-- Writes what a command comes to, and gives its exit code. -/
def perform : Result → IO UInt32
  | .ended report => do
    let stdout ← IO.getStdout
    stdout.write ⟨report.stdout⟩
    stdout.flush
    for line in report.stderr do IO.eprintln line
    return report.code.toUInt32
  | .viewing stderr viewer code => do
    for line in stderr do IO.eprintln line
    view viewer
    return code.toUInt32

end Stepwise.Cli

/-- The command. -/
def main (args : List String) : IO UInt32 := do
  match Stepwise.Cli.Options.ofArgs args with
  | .error stop => Stepwise.Cli.perform (.ended stop.report)
  | .ok options =>
    let input ← Stepwise.Cli.readInput options
    Stepwise.Cli.perform (Stepwise.Cli.run options input)
