-- SUMMARY: Failures of a device, errors of the library, and their texts.
import Fixture.Text.Quoted

/-!
# Errors

A device fails with a failure of some kind, with or without a text of its own.
The library has two errors: a count was missing, or a line could not be written.
-/

namespace Fixture

/-! ## Failures of a device -/

inductive FailureKind where
  | brokenPipe
  | notFound
  | permissionDenied
  | wouldBlock
  | writeZero
  | unexpectedEof
  | storageFull
  | other
  | timedOut
  | invalidInput
  | interrupted
  /-- A kind that is not treated in a way of its own, with its name and what it says. -/
  | further (name text : String)
deriving DecidableEq, Repr

/-- What a failure of this kind says when it has no text of its own. -/
def FailureKind.text : FailureKind → String
  | .brokenPipe => "broken pipe"
  | .notFound => "entity not found"
  | .permissionDenied => "permission denied"
  | .wouldBlock => "operation would block"
  | .writeZero => "write zero"
  | .unexpectedEof => "unexpected end of file"
  | .storageFull => "no storage space"
  | .other => "other error"
  | .timedOut => "timed out"
  | .invalidInput => "invalid input parameter"
  | .interrupted => "operation interrupted"
  | .further _ text => text

def FailureKind.name : FailureKind → String
  | .brokenPipe => "BrokenPipe"
  | .notFound => "NotFound"
  | .permissionDenied => "PermissionDenied"
  | .wouldBlock => "WouldBlock"
  | .writeZero => "WriteZero"
  | .unexpectedEof => "UnexpectedEof"
  | .storageFull => "StorageFull"
  | .other => "Other"
  | .timedOut => "TimedOut"
  | .invalidInput => "InvalidInput"
  | .interrupted => "Interrupted"
  | .further name _ => name

/-- The kinds with a constructor of their own. -/
def FailureKind.all : List FailureKind :=
  [.brokenPipe, .notFound, .permissionDenied, .wouldBlock, .writeZero, .unexpectedEof,
   .storageFull, .other, .timedOut, .invalidInput, .interrupted]

def FailureKind.ofName? (name : String) : Option FailureKind :=
  FailureKind.all.find? (·.name == name)

/-- A failure of a device. Its own text may be empty, which is not the same as
    having none. -/
structure Failure where
  kind : FailureKind
  message : Option String := none
deriving DecidableEq, Repr

def Failure.text (f : Failure) : String := f.message.getD f.kind.text

/-- The constructor view of a failure. -/
def Failure.describe (f : Failure) : String :=
  match f.message with
  | none => "Kind(" ++ f.kind.name ++ ")"
  | some message =>
    "Custom \x7b kind: " ++ f.kind.name ++ ", error: " ++ Text.quote message ++ " \x7d"

/-! ## Errors of the library -/

inductive FixtureError where
  /-- The count was zero. `what` names what it counts. -/
  | missingCount (what : String)
  /-- The line could not be written. -/
  | io (failure : Failure)
deriving DecidableEq, Repr

namespace FixtureError

def message : FixtureError → String
  | .missingCount what => what ++ " should be provided as parameter"
  | .io failure => "failed to write fixture: " ++ failure.text

/-- The text of the failure behind the error. -/
def source? : FixtureError → Option String
  | .missingCount _ => none
  | .io failure => some failure.text

/-- The constructor view of an error. -/
def describe : FixtureError → String
  | .missingCount what => "MissingCount \x7b what: " ++ Text.quote what ++ " \x7d"
  | .io failure => "Io(" ++ failure.describe ++ ")"

end FixtureError

end Fixture
