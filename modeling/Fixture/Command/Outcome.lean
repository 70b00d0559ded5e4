-- SUMMARY: A whole run of a program: exit status, output, log and report.
import Fixture.Command.Help
import Fixture.Event.Filter
import Fixture.Sink

/-!
# Outcomes

A run of a program depends on its arguments and its environment: the text of the
log filter, the device behind standard output, and the time. The outcome is pure
data. Standard output holds the fixture line, or the text that was asked for.
Standard error holds the log lines and behind them the report of an error.
-/

namespace Fixture

/-! ## Environments -/

/-- The device behind standard output. -/
inductive Output where
  | captured
  /-- A device with no room. -/
  | full
  /-- A pipe that nobody reads. -/
  | broken
deriving DecidableEq, Repr

namespace Output

/-- Why nothing can be written, if that is so. -/
def failure? : Output → Option Failure
  | .captured => none
  | .full => some ⟨.storageFull, some "No space left on device (os error 28)"⟩
  | .broken => some ⟨.brokenPipe, some "Broken pipe (os error 32)"⟩

def sink (output : Output) : Sink :=
  { writes := (output.failure?.map WriteOutcome.fail).toList }

/-- What is left of a text whose loss does not matter. -/
def keep (output : Output) (text : String) : String :=
  if output.failure?.isNone then text else ""

end Output

structure Environment where
  /-- The text of the log filter, if there is one. -/
  filter : Option String
  output : Output
  /-- The time that log lines show. -/
  time : String
deriving DecidableEq, Repr

/-! ## Outcomes -/

inductive Status where
  | success
  /-- The request could not be met. -/
  | failure
  /-- The command line is wrong. -/
  | usage
deriving DecidableEq, Repr

def Status.code : Status → Nat
  | .success => 0
  | .failure => 1
  | .usage => 2

structure Outcome where
  status : Status
  stdout : String
  /-- The log lines. -/
  log : List String
  /-- What standard error says behind the log. -/
  report : String
deriving DecidableEq, Repr

def Outcome.stderr (o : Outcome) : String := String.join o.log ++ o.report

/-- The log lines of the events that pass the filter. -/
def Environment.logLines (env : Environment) (events : List Event) : List String :=
  (events.filter (Filter.ofText? env.filter).passes).map (·.logLine env.time)

/-- End a run with what was generated: log its events and write its line. Nothing
    is on standard output after an error, for neither failing device keeps a byte. -/
def Generated.finish (generated : Generated) (env : Environment) : Outcome :=
  let log := env.logLines generated.events
  let written := generated.line.bind fun line =>
    (env.output.sink.writeFixture line).1.map fun _ => line
  match written with
  | .ok line => ⟨.success, line, log, ""⟩
  | .error e => ⟨.failure, "", log, "error: " ++ e.message ++ "\n"⟩

/-- Generate what is asked for, and end with it. -/
def Request.run (request : Request) (env : Environment) : Outcome := request.generate.finish env

namespace Program

def version : String := "0.1.0"

/-- Run a program. Help and the version are shown on a device that can show
    them, and succeed on any. -/
def run (p : Program) (env : Environment) (args : List Argument) : Outcome :=
  match p.read args with
  | .error e => ⟨.usage, "", [], e.report⟩
  | .ok (.help topic) => ⟨.success, env.output.keep topic.text, [], ""⟩
  | .ok .version => ⟨.success, env.output.keep (p.name ++ " " ++ version ++ "\n"), [], ""⟩
  | .ok (.request request) => request.run env

end Program

end Fixture
