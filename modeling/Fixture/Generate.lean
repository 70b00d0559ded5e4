-- SUMMARY: The two generators of fixture lines, with the events they emit.
import Fixture.Error
import Fixture.Event
import Fixture.Run.Ascending
import Fixture.Run.Keys

/-!
# Generators

A generator turns a count into a line. A zero count is refused and emits no
event. A negative count gives the empty line and a warning. Every line comes
with one debug event, the last.
-/

namespace Fixture

/-- What a generator gives: a line or an error, and events in order. -/
structure Generated where
  line : Except FixtureError String
  events : List Event

namespace Generate

def sequenceTarget : String := "fixturegen_lib::sequence"
def keysTarget : String := "fixturegen_lib::keys"

/-- The events of a line: a warning when the count is negative, then `last`. -/
def events (count : Int) (warning last : Event) : List Event :=
  if count < 0 then [warning, last] else [last]

/-- The line of `count + 1` consecutive integers from `start` on. -/
def highestValues (count start : Int) : Generated :=
  if count = 0 then ⟨.error (.missingCount "Highest int"), []⟩
  else
    let fields := [("count", display count), ("start", display start)]
    ⟨.ok (Line.join (Run.values (Ascending.ofCount count start))),
      events count
        ⟨.warn, sequenceTarget, "negative count, emitting an empty run", fields⟩
        ⟨.debug, sequenceTarget, "generating highest values", fields⟩⟩

/-- The line of `count + 1` accumulated keys, in hexadecimal. -/
def privateKeys (count : Int) : Generated :=
  if count = 0 then ⟨.error (.missingCount "Number of private keys"), []⟩
  else
    let keys := (Run.values (KeyRun.ofCount count)).map Numeral.hex
    ⟨.ok (Line.join keys),
      events count
        ⟨.warn, keysTarget, "negative count, emitting no keys", [("count", display count)]⟩
        ⟨.debug, keysTarget, "generated private keys",
          [("count", display count), ("emitted", display keys.length)]⟩⟩

end Generate

end Fixture
