-- SUMMARY: Decimal and hexadecimal numerals, and the value of a list of digits.

/-!
# Numerals

`decimal` and `hex` write a number with no leading zeros. The value of a digit
list is computed by `value`, from the front and in any base up to sixteen.
-/

namespace Fixture.Numeral

/-! ## Writing -/

/-- The decimal numeral, with a minus in front of a negative number only. -/
def decimal (n : Int) : String :=
  String.ofList (if n < 0 then '-' :: Nat.toDigits 10 n.natAbs else Nat.toDigits 10 n.natAbs)

/-- The hexadecimal numeral, in lowercase. -/
def hex (n : Nat) : String := String.ofList (Nat.toDigits 16 n)

/-- The number of binary digits. Zero has none. -/
def bitLength (n : Nat) : Nat := if n = 0 then 0 else n.log2 + 1

/-! ## Values of digits -/

/-- The value of a decimal or lowercase hexadecimal digit. -/
def digitValue (c : Char) : Nat :=
  if c.isDigit then c.toNat - '0'.toNat else c.toNat - 'a'.toNat + 10

/-- The value of a list of digits, most significant first. -/
def value (base : Nat) (digits : List Char) : Nat :=
  digits.foldl (fun v c => v * base + digitValue c) 0

theorem value_append_singleton (base : Nat) (digits : List Char) (c : Char) :
    value base (digits ++ [c]) = value base digits * base + digitValue c := by
  simp [value]

end Fixture.Numeral
