-- SUMMARY: Copies of a run in numbered slots, and the steps that use them.
import Fixture.Line
import Fixture.Run

/-!
# Sessions

A session holds copies of one run in numbered slots, one of them current. A step
works on the current slot and leaves the others alone. The slots begin with the
run itself in slot zero. A fork adds a slot at the end.
-/

namespace Fixture

structure Session (σ : Type) where
  slots : List σ
  current : Nat
  current_lt : current < slots.length

inductive Step where
  | next
  /-- The value behind `n` skipped ones. -/
  | nth (n : Nat)
  /-- At most `n` values. -/
  | take (n : Nat)
  /-- The line of at most `n` values. -/
  | join (n : Nat)
  /-- The number of values left. The run does not move. -/
  | count
  /-- The last value left. The run does not move. -/
  | last
  /-- What is known about the number of values left without looking. -/
  | bounds
  /-- Copy the current run to a new slot. The current slot stays. -/
  | fork
  /-- Make another slot current. -/
  | use (slot : Nat)
deriving DecidableEq, Repr

inductive Answer (α : Type) where
  | value (v : Option α)
  | values (vs : List α)
  | line (text : String)
  | number (n : Nat)
  | bounds (least : Nat) (most : Option Nat)
deriving DecidableEq, Repr

namespace Session

variable {σ α : Type}

/-- A session with one slot. -/
def start (s : σ) : Session σ := ⟨[s], 0, by simp⟩

/-- The run in the current slot. -/
def run (session : Session σ) : σ := session.slots.get ⟨session.current, session.current_lt⟩

/-- Replace the run in the current slot. -/
def put (session : Session σ) (s : σ) : Session σ :=
  { session with
    slots := session.slots.set session.current s
    current_lt := by simpa using session.current_lt }

def fork (session : Session σ) : Session σ :=
  { session with
    slots := session.slots ++ [session.run]
    current_lt := by have := session.current_lt; simp; omega }

/-- Make `slot` current. A number that is no slot changes nothing. -/
def use (session : Session σ) (slot : Nat) : Session σ :=
  if h : slot < session.slots.length then { session with current := slot, current_lt := h }
  else session

variable [Run σ α] [Display α]

def step (session : Session σ) : Step → Answer α × Session σ
  | .next => (Run.advance session.run).map .value session.put
  | .nth n => (Run.nth n session.run).map .value session.put
  | .take n => (Run.take n session.run).map .values session.put
  | .join n => (Run.take n session.run).map (.line ∘ Line.join) session.put
  | .count => (.number (Run.count session.run), session)
  | .last => (.value (Run.last? session.run), session)
  | .bounds => (.bounds 0 none, session)
  | .fork => (.number session.slots.length, session.fork)
  | .use slot => (.number (session.use slot).current, session.use slot)

/-- Run steps in order. Each answer comes with the current run after its step. -/
def steps (session : Session σ) : List Step → List (Answer α × σ)
  | [] => []
  | s :: rest =>
    let (answer, after) := session.step s
    (answer, after.run) :: after.steps rest

end Session

end Fixture
