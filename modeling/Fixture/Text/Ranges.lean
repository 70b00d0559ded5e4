-- SUMMARY: Classes of characters given as tables of code point ranges.

/-!
# Tables of code points

A property of Unicode is a list of ranges `(first, last)`, both ends included.
A character has the property when its code point lies in one of them.
-/

namespace Fixture.Text

/-- The code point of `c` lies in a range of the table. -/
def inRanges (table : List (Nat × Nat)) (c : Char) : Bool :=
  table.any fun (first, last) => first ≤ c.toNat && c.toNat ≤ last

theorem inRanges_iff {table : List (Nat × Nat)} {c : Char} :
    inRanges table c = true ↔ ∃ r ∈ table, r.1 ≤ c.toNat ∧ c.toNat ≤ r.2 := by
  simp [inRanges]

end Fixture.Text
