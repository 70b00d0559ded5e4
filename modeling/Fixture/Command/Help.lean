-- SUMMARY: Help pages: their contents and how they are laid out.
import Fixture.Command.Program

/-!
# Help pages

A page says what a command does, how it is called, and lists its commands,
arguments and options. The entries of a list stand in two columns.
-/

namespace Fixture

/-- A term and what it means. -/
structure Entry where
  term : String
  meaning : String
deriving Repr

/-- A titled list of entries. -/
structure Section where
  title : String
  entries : List Entry
deriving Repr

namespace Section

/-- The width of the first column. -/
def width (s : Section) : Nat := (s.entries.map (·.term.length)).foldl max 0

def render (s : Section) : String :=
  "\n" ++ s.title ++ ":\n" ++
    String.join (s.entries.map fun entry =>
      "  " ++ String.ofList (entry.term.toList.rightpad s.width ' ') ++ "  " ++
        entry.meaning ++ "\n")

end Section

structure Page where
  about : String
  usage : String
  sections : List Section
deriving Repr

def Page.render (p : Page) : String :=
  p.about ++ "\n\nUsage: " ++ p.usage ++ "\n" ++ String.join (p.sections.map Section.render)

/-! ## Contents -/

/-- What a task prints. -/
def Task.summary : Task → String
  | .highest => "Print `count + 1` consecutive integers starting at `start`"
  | .keys => "Print `count + 1` accumulated private keys in hex"

/-- What the operand of a task means. -/
def Task.meaning : Task → Operand → String
  | .highest, .count => "Number of values past `start` (must be non-zero)"
  | .keys, .count => "Number of keys past the seed key (must be non-zero)"
  | _, .start => "First value of the run"

def Task.word : Task → String
  | .highest => "highest"
  | .keys => "keys"

/-- A command and the operands it asks for. -/
def Task.usage (task : Task) (command : String) : String :=
  command ++ String.join (task.operands.map fun operand => " " ++ operand.name)

def Task.arguments (task : Task) : Section :=
  ⟨"Arguments", task.operands.map fun operand => ⟨operand.name, task.meaning operand⟩⟩

def helpOption : Entry := ⟨"-h, --help", "Print help"⟩

def versionOption : Entry := ⟨"-V, --version", "Print version"⟩

def helpSummary : String := "Print this message or the help of the given subcommand(s)"

namespace Topic

def page : Topic → Page
  | .program .suite =>
    { about := Program.summary .suite
      usage := Program.name .suite ++ " <COMMAND>"
      sections :=
        [⟨"Commands",
          [⟨Task.word .highest, Task.summary .highest⟩,
            ⟨Task.word .keys, Task.summary .keys⟩,
            ⟨"help", helpSummary⟩]⟩,
          ⟨"Options", [helpOption, versionOption]⟩] }
  | .program (.single task) =>
    { about := Program.summary (.single task)
      usage := task.usage (Program.name (.single task))
      sections := [task.arguments, ⟨"Options", [helpOption, versionOption]⟩] }
  | .subcommand task =>
    { about := task.summary
      usage := task.usage (Program.name .suite ++ " " ++ task.word)
      sections := [task.arguments, ⟨"Options", [helpOption]⟩] }
  | .help =>
    { about := helpSummary
      usage := Program.name .suite ++ " help [COMMAND]..."
      sections := [⟨"Arguments", [⟨"[COMMAND]...", "Print help for the subcommand(s)"⟩]⟩] }

def text (topic : Topic) : String := topic.page.render

end Topic

end Fixture
