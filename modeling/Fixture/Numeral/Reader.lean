-- SUMMARY: Reading a decimal integer of any size, and the reasons to refuse a text.
import Fixture.Numeral
import Fixture.Text.Blank

/-!
# Reading integers

A text is an integer when, blanks at both ends aside, it is an optional sign,
a digit, and then digits and underscores. Underscores group the digits and have
no value. Both signs are allowed, but a minus in front of a plus is no sign,
nor is a plus in front of a plus.
-/

namespace Fixture.Numeral

/-! ## Refusals -/

inductive Fault where
  | empty
  | invalidDigit
deriving DecidableEq, Repr

def Fault.reason : Fault → String
  | .empty => "cannot parse integer from empty string"
  | .invalidDigit => "invalid digit found in string"

/-- The message names the text as it was given, blanks included. -/
def Fault.message (fault : Fault) (text : String) : String :=
  "invalid integer '" ++ text ++ "': " ++ fault.reason

/-! ## Sign and digits -/

/-- Take off a leading minus, and say whether there was one. A minus in front
    of a plus stays. -/
def takeMinus : List Char → Bool × List Char
  | '-' :: '+' :: cs => (false, '-' :: '+' :: cs)
  | '-' :: cs => (true, cs)
  | cs => (false, cs)

/-- Take off a leading plus. A plus in front of a plus stays. -/
def dropPlus : List Char → List Char
  | '+' :: '+' :: cs => '+' :: '+' :: cs
  | '+' :: cs => cs
  | cs => cs

/-- What may follow the first digit. -/
def isDigitOrUnderscore (c : Char) : Bool := c.isDigit || c == '_'

/-- The value of digits grouped by underscores. The first character is a digit. -/
def readMagnitude : List Char → Except Fault Nat
  | [] => .error .empty
  | c :: cs =>
    if c.isDigit && cs.all isDigitOrUnderscore then
      .ok (value 10 ((c :: cs).filter Char.isDigit))
    else .error .invalidDigit

theorem grouped_of_readMagnitude {c : Char} {cs : List Char} {n : Nat}
    (h : readMagnitude (c :: cs) = .ok n) :
    c.isDigit = true ∧ cs.all isDigitOrUnderscore = true := by
  simp only [readMagnitude] at h
  split at h
  · exact Bool.and_eq_true_iff.mp ‹_›
  · contradiction

/-- Read an integer with no blanks around it. -/
def readSigned (cs : List Char) : Except Fault Int :=
  let (negative, rest) := takeMinus cs
  (readMagnitude (dropPlus rest)).map fun n => if negative then -(n : Int) else n

/-! ### One sign

Looking ahead makes no difference: a sign that stays is no digit, and neither is
a sign behind one that was taken off. -/

theorem readSigned_eq (cs : List Char) :
    readSigned cs = (readMagnitude (dropPlus (takeMinus cs).2)).map fun (n : Nat) =>
      if (takeMinus cs).1 then -(n : Int) else n := by
  cases h : takeMinus cs with
  | mk negative rest =>
    simp only [readSigned, h]
    cases readMagnitude (dropPlus rest) <;> rfl

theorem readMagnitude_of_not_isDigit {c : Char} (h : c.isDigit = false) (cs : List Char) :
    readMagnitude (c :: cs) = .error .invalidDigit := by
  simp [readMagnitude, h]

theorem readSigned_minus (cs : List Char) :
    readSigned ('-' :: cs) = (readMagnitude cs).map fun (n : Nat) => -(n : Int) := by
  match cs with
  | [] => rfl
  | c :: cs =>
    by_cases hplus : c = '+'
    · subst hplus
      rw [readMagnitude_of_not_isDigit (by decide)]
      rfl
    · simp [readSigned_eq, takeMinus, dropPlus, hplus]

theorem readSigned_plus (cs : List Char) :
    readSigned ('+' :: cs) = (readMagnitude cs).map fun (n : Nat) => (n : Int) := by
  match cs with
  | [] => rfl
  | c :: cs =>
    by_cases hplus : c = '+'
    · subst hplus
      rw [readMagnitude_of_not_isDigit (by decide)]
      rfl
    · simp [readSigned_eq, takeMinus, dropPlus, hplus]

theorem readSigned_of_unsigned {c : Char} (hminus : c ≠ '-') (hplus : c ≠ '+') (cs : List Char) :
    readSigned (c :: cs) = (readMagnitude (c :: cs)).map fun (n : Nat) => (n : Int) := by
  simp [readSigned_eq, takeMinus, dropPlus, hminus, hplus]

/-- Read an integer, blanks at both ends aside. -/
def readInt (text : String) : Except Fault Int := readSigned (Text.trim text.toList)

end Fixture.Numeral
