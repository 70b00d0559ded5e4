-- SUMMARY: The two tasks, the values they ask for, and the requests they make.
import Fixture.Generate

/-!
# Tasks

A task asks for operands in a fixed order. With a value for each of them it is a
request to a generator.
-/

namespace Fixture

/-- A value that a task asks for. -/
inductive Operand where
  | count
  | start
deriving DecidableEq, Repr

def Operand.name : Operand → String
  | .count => "<COUNT>"
  | .start => "<START>"

inductive Task where
  | highest
  | keys
deriving DecidableEq, Repr

inductive Request where
  | highest (count start : Int)
  | keys (count : Int)
deriving DecidableEq, Repr

namespace Task

def operands : Task → List Operand
  | .highest => [.count, .start]
  | .keys => [.count]

/-- The request that the values make, when there is one for each operand. -/
def request? : Task → List Int → Option Request
  | .highest, [count, start] => some (.highest count start)
  | .keys, [count] => some (.keys count)
  | _, _ => none

theorem request?_isSome_iff {task : Task} {values : List Int} :
    (task.request? values).isSome = true ↔ values.length = task.operands.length := by
  cases task with
  | highest =>
    match values with
    | [] | [_] | [_, _] | _ :: _ :: _ :: _ => simp [request?, operands]
  | keys =>
    match values with
    | [] | [_] | _ :: _ :: _ => simp [request?, operands]

end Task

def Request.generate : Request → Generated
  | .highest count start => Generate.highestValues count start
  | .keys count => Generate.privateKeys count

end Fixture
