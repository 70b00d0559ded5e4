-- SUMMARY: Blank characters and trimming them off both ends of a text.
import Fixture.Text.Ranges

/-!
# Blanks

The blanks are the characters with the Unicode property White_Space. The zero
width space U+200B, the byte order mark U+FEFF and U+180E do not have it.
-/

namespace Fixture.Text

def blankRanges : List (Nat × Nat) :=
  [(0x09, 0x0D), (0x20, 0x20), (0x85, 0x85), (0xA0, 0xA0), (0x1680, 0x1680),
   (0x2000, 0x200A), (0x2028, 0x2029), (0x202F, 0x202F), (0x205F, 0x205F), (0x3000, 0x3000)]

def isBlank (c : Char) : Bool := inRanges blankRanges c

/-- Drop the blanks in front. -/
def trimStart (cs : List Char) : List Char := cs.dropWhile isBlank

/-- Drop the blanks behind. -/
def trimEnd (cs : List Char) : List Char := (cs.reverse.dropWhile isBlank).reverse

/-- Drop the blanks at both ends. -/
def trim (cs : List Char) : List Char := trimEnd (trimStart cs)

private theorem dropWhile_isBlank_eq_self {cs : List Char} (h : ∀ c ∈ cs, isBlank c = false) :
    cs.dropWhile isBlank = cs := by
  cases cs with
  | nil => rfl
  | cons c cs => simp [h c List.mem_cons_self]

/-- A text with no blanks has none at its ends. -/
theorem trim_eq_self {cs : List Char} (h : ∀ c ∈ cs, isBlank c = false) : trim cs = cs := by
  have hback : ∀ c ∈ cs.reverse, isBlank c = false := fun c hc => h c (List.mem_reverse.mp hc)
  rw [trim, trimStart, trimEnd, dropWhile_isBlank_eq_self h, dropWhile_isBlank_eq_self hback,
    List.reverse_reverse]

end Fixture.Text
