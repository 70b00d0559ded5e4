-- SUMMARY: Ways a command line can be wrong, and how each is reported.
import Fixture.Command.Task
import Fixture.Numeral.Reader
import Fixture.Text.Styled

/-!
# Usage errors

An error names what is wrong with a command line. Arguments in it are shown as
text. The report of an error is its message without styles, and one paragraph:
what follows the first empty line is left out. Advice stands behind an empty
line, so it is reported only when a control sequence hides that line.
-/

namespace Fixture

open Text (Styled)

inductive UsageError where
  /-- A value is not well-formed text. -/
  | invalidUtf8
  /-- The value of an operand is not an integer. -/
  | invalidValue (operand : Operand) (text : String) (fault : Numeral.Fault)
  /-- An argument is one too many, or a flag that is not known. -/
  | unexpectedArgument (shown : String)
  /-- A flag was given a value. -/
  | unexpectedValue (value flag : String)
  | unrecognizedSubcommand (word : String)
  /-- Operands have no value. -/
  | missing (operands : List Operand)
  /-- There is no subcommand. `summary` says what the program does. -/
  | missingSubcommand (summary : String)
deriving DecidableEq, Repr

/-- The text up to its first empty line. -/
def firstParagraph : List Char → List Char
  | [] => []
  | '\n' :: '\n' :: _ => []
  | c :: cs => c :: firstParagraph cs

namespace UsageError

/-- What is wrong. Words of the command line are marked where they are named,
    but not where the reason for refusing a value names it again. -/
def message : UsageError → Styled
  | .invalidUtf8 => [.plain "error: invalid UTF-8 was detected in one or more arguments"]
  | .invalidValue operand text fault =>
    [.plain "error: invalid value '", .marked text, .plain "' for '", .marked operand.name,
      .plain ("': " ++ fault.message text)]
  | .unexpectedArgument shown =>
    [.plain "error: unexpected argument '", .marked shown, .plain "' found"]
  | .unexpectedValue value flag =>
    [.plain "error: unexpected value '", .marked value, .plain "' for '", .marked flag,
      .plain "' found; no more were expected"]
  | .unrecognizedSubcommand word =>
    [.plain "error: unrecognized subcommand '", .marked word, .plain "'"]
  | .missing operands =>
    .plain "error: the following required arguments were not provided:" ::
      operands.flatMap fun operand => [.plain "\n  ", .marked operand.name]
  | .missingSubcommand summary => [.plain summary]

/-- What follows a message, behind an empty line. -/
def advice : Styled :=
  [.plain "\n\nFor more information, try '", .marked "--help", .plain "'.\n"]

/-- What is printed about the error. -/
def report (e : UsageError) : String :=
  String.ofList (firstParagraph (Styled.visible {} (e.message ++ advice)))

end UsageError

end Fixture
