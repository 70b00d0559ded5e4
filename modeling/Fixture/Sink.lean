-- SUMMARY: A scripted device that takes bytes in parts or fails, and writing a line to it.
import Fixture.Error
import Fixture.Text.Utf8

/-!
# Sinks

A sink takes bytes. Each write may accept only some of the bytes offered, or
fail. What the writes and the flushes will do is scripted by two lists. Beyond
its list a sink accepts everything, and flushes well.

A line is written by offering what is left of it until nothing is left. A write
that was interrupted is tried again. A write that accepts nothing, or fails in
another way, ends the line. A line that was accepted is flushed once.
-/

namespace Fixture

/-- What a write does. -/
inductive WriteOutcome where
  /-- Accept at most this many of the bytes offered. -/
  | accept (most : Nat)
  | fail (failure : Failure)
deriving DecidableEq, Repr

/-- What a flush does. -/
inductive FlushOutcome where
  | done
  | fail (failure : Failure)
deriving DecidableEq, Repr

/-- What a write that accepts nothing counts as. -/
def nothingAccepted : Failure := ⟨.writeZero, some "failed to write whole buffer"⟩

/-! ## Offering bytes to a list of writes -/

/-- How far the bytes of a line got. -/
structure Offered where
  /-- The failure that ended the line, if it was not accepted as a whole. -/
  failure : Option Failure
  accepted : List UInt8
  /-- The number of writes. -/
  calls : Nat
  /-- The writes still to come. -/
  rest : List WriteOutcome
deriving DecidableEq, Repr

/-- Put a write that accepted `bytes` in front. -/
def Offered.after (o : Offered) (bytes : List UInt8) : Offered :=
  { o with accepted := bytes ++ o.accepted, calls := o.calls + 1 }

/-- Offer bytes to scripted writes until none are left or a write fails. -/
def offer : List WriteOutcome → List UInt8 → Offered
  | script, [] => ⟨none, [], 0, script⟩
  | [], bytes => ⟨none, bytes, 1, []⟩
  | .accept most :: script, bytes =>
    if most = 0 then ⟨some nothingAccepted, [], 1, script⟩
    else (offer script (bytes.drop most)).after (bytes.take most)
  | .fail failure :: script, bytes =>
    if failure.kind = .interrupted then (offer script bytes).after []
    else ⟨some failure, [], 1, script⟩

/-! ## Sinks -/

structure Sink where
  /-- What the coming writes do. -/
  writes : List WriteOutcome := []
  /-- What the coming flushes do. -/
  flushes : List FlushOutcome := []
  /-- The bytes accepted so far. -/
  accepted : List UInt8 := []
  writeCalls : Nat := 0
  flushCalls : Nat := 0
deriving DecidableEq, Repr

namespace Sink

/-- Offer all of `bytes`. The answer is the failure that ended it, if any. -/
def writeAll (sink : Sink) (bytes : List UInt8) : Option Failure × Sink :=
  let offered := offer sink.writes bytes
  (offered.failure,
    { sink with
      writes := offered.rest
      accepted := sink.accepted ++ offered.accepted
      writeCalls := sink.writeCalls + offered.calls })

def flush (sink : Sink) : Option Failure × Sink :=
  let flushed := { sink with flushes := sink.flushes.tail, flushCalls := sink.flushCalls + 1 }
  match sink.flushes.head? with
  | some (.fail failure) => (some failure, flushed)
  | _ => (none, flushed)

/-- Write a line as it is, with no newline, and flush. -/
def writeFixture (sink : Sink) (line : String) : Except FixtureError Unit × Sink :=
  match sink.writeAll (Text.encode line) with
  | (some failure, written) => (.error (.io failure), written)
  | (none, written) =>
    match written.flush with
    | (some failure, flushed) => (.error (.io failure), flushed)
    | (none, flushed) => (.ok (), flushed)

/-- Write lines one after the other, and go on after an error. Each result comes
    with the sink after its line. -/
def writeFixtures (sink : Sink) : List String → List (Except FixtureError Unit × Sink)
  | [] => []
  | line :: lines =>
    let (result, after) := sink.writeFixture line
    (result, after) :: after.writeFixtures lines

end Sink

end Fixture
