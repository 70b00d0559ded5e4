-- SUMMARY: The command line: arguments, environment and devices of the operating system.
import Fixture.Command.Outcome
import Std.Time.Format

/-!
# Command line

The name under which the executable was called chooses the program, the suite if
the name is no program's. All decisions are in `Program.run`.
-/

namespace Fixture

/-- The program that was called. -/
def calledProgram : IO Program := do
  let path ← IO.appPath
  return ((path.fileStem.bind Program.ofName?).getD .suite)

/-- The time in UTC, as log lines show it. -/
def timestamp : IO String := do
  let now ← Std.Time.Timestamp.now
  return (Std.Time.PlainDateTime.ofWallTime (Std.Time.WallTime.ofTimestamp now .zero)).format
    "uuuu-MM-dd'T'HH:mm:ss.SSSSSS'Z'"

/-- The device that a failed write points to. -/
def Output.ofError : IO.Error → Output
  | .resourceVanished .. => .broken
  | _ => .full

/-- Write a text to standard output, and say which device refused it. -/
def tryWrite (text : String) : IO Output := do
  try
    let stdout ← IO.getStdout
    stdout.putStr text
    stdout.flush
    return .captured
  catch e => return Output.ofError e

end Fixture

open Fixture in
def main (args : List String) : IO UInt32 := do
  let program ← calledProgram
  let env : Environment :=
    { filter := ← IO.getEnv "RUST_LOG", output := .captured, time := ← timestamp }
  let args := args.map Argument.ofString
  let output ← tryWrite (program.run env args).stdout
  let outcome := program.run { env with output } args
  IO.eprint outcome.stderr
  if outcome.status = .usage then IO.eprintln ""
  return outcome.status.code.toUInt32
