-- SUMMARY: Reading the arguments of a task from left to right.
import Fixture.Command.Argument

/-!
# Reading arguments

The arguments of a task are read from left to right. A value is stored unchecked
when it is met. It is checked when the next value is stored, when help or the
version is about to be shown, or at the end. So a flag that is not known, or a
value too many, is the error even behind a bad value.

Reading stops at the first argument that settles the outcome. The arguments
behind it are not looked at.
-/

namespace Fixture

/-- The command that asks for a task's operands. `versioned` says whether it has
    a flag for the version. -/
structure Form where
  task : Task
  versioned : Bool
deriving DecidableEq, Repr

/-- What well-formed arguments ask for. -/
inductive Reply where
  | request (r : Request)
  | help
  | version
deriving DecidableEq, Repr

/-- The integer that an argument gives for an operand. -/
def Operand.read (operand : Operand) (a : Argument) : Except UsageError Int :=
  match Text.decode? a with
  | none => .error .invalidUtf8
  | some text =>
    match Numeral.readInt text with
    | .ok v => .ok v
    | .error fault => .error (.invalidValue operand text fault)

/-- Where reading stands. -/
structure Reading where
  form : Form
  /-- The operands that have no value yet. -/
  wanted : List Operand
  /-- The values that were checked. -/
  values : List Int
  /-- The value stored last, not checked yet. -/
  pending : Option (Operand × Argument)
  /-- There are no flags any more. -/
  literal : Bool
deriving DecidableEq, Repr

/-- The outcome of one argument. -/
inductive Progress where
  | more (reading : Reading)
  | done (result : Except UsageError Reply)

namespace Reading

def start (form : Form) : Reading := ⟨form, form.task.operands, [], none, false⟩

/-- Check the value stored last, and give all values. -/
def settle (r : Reading) : Except UsageError (List Int) :=
  match r.pending with
  | none => .ok r.values
  | some (operand, a) => (operand.read a).map fun v => r.values ++ [v]

/-- Store an argument as the value of the next operand. -/
def store (r : Reading) (a : Argument) : Progress :=
  match r.wanted with
  | [] => .done (.error (.unexpectedArgument a.shown))
  | operand :: wanted =>
    match r.settle with
    | .error e => .done (.error e)
    | .ok values => .more { r with wanted, values, pending := some (operand, a) }

/-- Obey a flag. -/
def obey (r : Reading) : Flag → Except UsageError Reply
  | .help => r.settle.map fun _ => .help
  | .version => r.settle.map fun _ => .version
  | .refused e => .error e

/-- A hyphenated argument is a value when it looks like a number and an operand
    is still without one. -/
def isFlag (r : Reading) (a : Argument) : Bool :=
  a.isHyphenated && !(a.isNegative && !r.wanted.isEmpty)

def step (r : Reading) (a : Argument) : Progress :=
  if r.literal then r.store a
  else if a.isSeparator then .more { r with literal := true }
  else if r.isFlag a then .done (r.obey (Flag.ofArgument r.form.versioned a))
  else r.store a

/-- What the arguments ask for when there are no more of them. -/
def finish (r : Reading) : Except UsageError Reply :=
  match r.settle with
  | .error e => .error e
  | .ok values =>
    match r.form.task.request? values with
    | some request => .ok (.request request)
    | none => .error (.missing r.wanted)

def scan (r : Reading) : List Argument → Except UsageError Reply
  | [] => r.finish
  | a :: rest =>
    match r.step a with
    | .more s => s.scan rest
    | .done result => result

end Reading

/-- Read the arguments of a task. -/
def Form.read (form : Form) (args : List Argument) : Except UsageError Reply :=
  (Reading.start form).scan args

end Fixture
