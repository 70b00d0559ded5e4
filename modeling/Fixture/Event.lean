-- SUMMARY: Diagnostic events and the log line of an event.

/-!
# Events

An event has a level, a target that names the part it comes from, a message, and
named fields. It is data: whether it is shown is decided by a filter.
-/

namespace Fixture

inductive Level where
  | error
  | warn
  | info
  | debug
  | trace
deriving DecidableEq, Repr

namespace Level

/-- The place of a level among the others. The gravest is first. -/
def rank : Level → Nat
  | .error => 1
  | .warn => 2
  | .info => 3
  | .debug => 4
  | .trace => 5

def name : Level → String
  | .error => "ERROR"
  | .warn => "WARN"
  | .info => "INFO"
  | .debug => "DEBUG"
  | .trace => "TRACE"

/-- The name, padded on the left to the longest. -/
def padded (level : Level) : String :=
  String.ofList (level.name.toList.leftpad 5 ' ')

end Level

structure Event where
  level : Level
  target : String
  message : String
  fields : List (String × String)
deriving DecidableEq, Repr

/-- The line an event gives in a log, behind the time `time`. -/
def Event.logLine (time : String) (e : Event) : String :=
  time ++ " " ++ e.level.padded ++ " " ++ e.message ++
    String.join (e.fields.map fun (name, value) => " " ++ name ++ "=" ++ value) ++ "\n"

end Fixture
