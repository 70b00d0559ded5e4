-- SUMMARY: A text between double quotes, with escapes for what a reader could not see.
import Fixture.Text.Printable

/-!
# Quoted text

The quote and the backslash get a backslash. Newline, carriage return, tab and
NUL have letters of their own. Every other unprintable character is written as
its code point in hexadecimal, between braces. The apostrophe stays.
-/

namespace Fixture.Text

/-- One character as it stands between double quotes. -/
def escape (c : Char) : List Char :=
  if c = '"' then ['\\', '"']
  else if c = '\\' then ['\\', '\\']
  else if c = '\n' then ['\\', 'n']
  else if c = '\r' then ['\\', 'r']
  else if c = '\t' then ['\\', 't']
  else if c = '\x00' then ['\\', '0']
  else if isPrintable c then [c]
  else ['\\', 'u', '\x7b'] ++ Nat.toDigits 16 c.toNat ++ ['\x7d']

/-- The text between double quotes, escaped. -/
def quote (s : String) : String :=
  "\"" ++ String.ofList (s.toList.flatMap escape) ++ "\""

end Fixture.Text
