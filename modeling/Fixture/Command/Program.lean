-- SUMMARY: The three programs, and which task, help page or version a command line asks for.
import Fixture.Command.Reading

/-!
# Programs

There is a program for each task, and a suite that has both tasks as
subcommands. The suite also has a subcommand for help, which takes the path of a
subcommand. Subcommands have no flag for the version.
-/

namespace Fixture

inductive Program where
  /-- Both tasks, as subcommands. -/
  | suite
  /-- One task. -/
  | single (task : Task)
deriving DecidableEq, Repr

/-- What a help page is about. -/
inductive Topic where
  | program (p : Program)
  | subcommand (task : Task)
  /-- The subcommand for help. -/
  | help
deriving DecidableEq, Repr

/-- What a command line asks for. -/
inductive Invocation where
  | request (r : Request)
  | help (topic : Topic)
  | version
deriving DecidableEq, Repr

/-- The invocation of a reply, where help is about `topic`. -/
def Reply.invocation (topic : Topic) : Reply → Invocation
  | .request r => .request r
  | .help => .help topic
  | .version => .version

/-- A subcommand of the suite. -/
inductive Subcommand where
  | task (task : Task)
  | help
deriving DecidableEq, Repr

namespace Subcommand

/-- A subcommand is named by its exact word. -/
def ofArgument? (a : Argument) : Option Subcommand :=
  if a = Argument.ofString "highest" then some (.task .highest)
  else if a = Argument.ofString "keys" then some (.task .keys)
  else if a = Argument.ofString "help" then some .help
  else none

def topic : Subcommand → Topic
  | .task t => .subcommand t
  | .help => .help

end Subcommand

namespace Program

def name : Program → String
  | .suite => "fixturegen"
  | .single .highest => "get-highest-values"
  | .single .keys => "get-private-keys"

def all : List Program := [.suite, .single .highest, .single .keys]

def ofName? (name : String) : Option Program := all.find? (·.name == name)

/-- What the program does, in a sentence. -/
def summary : Program → String
  | .suite =>
    "Small CLI for generating deterministic test fixtures (highest values, private key lists)."
  | .single .highest => "Print a run of consecutive integers"
  | .single .keys => "Print a list of accumulated hex keys"

def unrecognized (a : Argument) : Except UsageError Invocation :=
  .error (.unrecognizedSubcommand a.shown)

/-- The help page at a path. Subcommands have no subcommands of their own. -/
def readPath : List Argument → Except UsageError Invocation
  | [] => .ok (.help (.program .suite))
  | a :: rest =>
    match Subcommand.ofArgument? a, rest with
    | none, _ => unrecognized a
    | some subcommand, [] => .ok (.help subcommand.topic)
    | some _, b :: _ => unrecognized b

/-- Read the arguments of the suite. Behind a separator a subcommand is only a
    word that is not expected there. -/
def readSuite : List Argument → Except UsageError Invocation
  | [] => .error (.missingSubcommand (summary .suite))
  | a :: rest =>
    match Subcommand.ofArgument? a with
    | some (.task task) =>
      (Form.read ⟨task, false⟩ rest).map (Reply.invocation (.subcommand task))
    | some .help => readPath rest
    | none =>
      if a.isSeparator then
        match rest with
        | [] => .error (.missingSubcommand (summary .suite))
        | b :: _ =>
          match Subcommand.ofArgument? b with
          | some _ => .error (.unexpectedArgument b.shown)
          | none => unrecognized b
      else if a.isHyphenated then
        match Flag.ofArgument true a with
        | .help => .ok (.help (.program .suite))
        | .version => .ok .version
        | .refused e => .error e
      else unrecognized a

def read : Program → List Argument → Except UsageError Invocation
  | .suite, args => readSuite args
  | .single task, args =>
    (Form.read ⟨task, true⟩ args).map (Reply.invocation (.program (.single task)))

end Program

end Fixture
