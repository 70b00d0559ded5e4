-- SUMMARY: Arguments of a command line as bytes, and what makes one a number or a flag.
import Fixture.Command.Usage
import Fixture.Text.Utf8

/-!
# Arguments

An argument is a string of bytes and need not be well-formed text. It is
hyphenated when it begins with a hyphen and goes on. A hyphenated argument may
have the shape of a negative number, which has decimal digits, possibly one
point among or behind them, and possibly an exponent with no sign. Otherwise it
is a flag.
-/

namespace Fixture

abbrev Argument := List UInt8

namespace Argument

def ofString (s : String) : Argument := Text.encode s

/-- The argument as a message shows it. -/
def shown (a : Argument) : String := Text.decodeLossy a

def hyphen : UInt8 := 0x2D

/-- Two hyphens alone. Behind the first such argument there are no flags. -/
def isSeparator (a : Argument) : Bool := a == [hyphen, hyphen]

def isHyphenated : Argument → Bool
  | b :: _ :: _ => b == hyphen
  | _ => false

/-! ## Numbers -/

def isDigit (b : UInt8) : Bool := 0x30 ≤ b && b ≤ 0x39

/-- Nothing, or a letter `e` and digits up to the end. -/
def isExponent : List UInt8 → Bool
  | [] => true
  | b :: digits => (b == 0x65 || b == 0x45) && !digits.isEmpty && digits.all isDigit

/-- What follows the leading digits of a number: an exponent, possibly behind a
    point and more digits. -/
def isFraction : List UInt8 → Bool
  | [] => true
  | b :: rest => if b == 0x2E then isExponent (rest.dropWhile isDigit) else isExponent (b :: rest)

/-- A number with no sign. -/
def isUnsigned : List UInt8 → Bool
  | [] => false
  | b :: rest => isDigit b && isFraction (rest.dropWhile isDigit)

/-- A hyphen and a number. -/
def isNegative : Argument → Bool
  | [] => false
  | b :: rest => b == hyphen && isUnsigned rest

end Argument

/-! ## Flags -/

/-- What a flag asks for. -/
inductive Flag where
  | help
  | version
  | refused (e : UsageError)
deriving DecidableEq, Repr

namespace Flag

/-- A long flag, without its two hyphens. A flag that is known takes no value. -/
def ofLong (versioned : Bool) (body : List UInt8) : Flag :=
  let (name, value) := body.span (· != 0x3D)
  let known :=
    if name = Text.encode "help" then some Flag.help
    else if name = Text.encode "version" ∧ versioned then some Flag.version
    else none
  let shown := "--" ++ Argument.shown name
  match known, value with
  | none, _ => .refused (.unexpectedArgument shown)
  | some flag, [] => flag
  | some _, _ :: value => .refused (.unexpectedValue (Argument.shown value) shown)

/-- The first of a group of short flags, as a message shows it. Bytes that begin
    with no character are shown up to their end. -/
def shownFirst (body : List UInt8) : String :=
  match Text.characters body with
  | some c :: _ => String.singleton c
  | _ => Argument.shown body

/-- A group of short flags, without its hyphen. The first of them decides. -/
def ofShort (versioned : Bool) (body : List UInt8) : Flag :=
  if body.head? = some 0x68 then .help
  else if body.head? = some 0x56 ∧ versioned then .version
  else .refused (.unexpectedArgument ("-" ++ shownFirst body))

/-- The flag that a hyphenated argument is. `versioned` says whether there is a
    flag for the version. -/
def ofArgument (versioned : Bool) (a : Argument) : Flag :=
  match a.drop 1 with
  | [] => ofShort versioned []
  | b :: body =>
    if b == Argument.hyphen then ofLong versioned body else ofShort versioned (b :: body)

end Flag

end Fixture
