-- SUMMARY: Joining values to a comma-separated line, and the pieces of a line.
import Fixture.Numeral

/-!
# Fixture lines

A fixture line holds values separated by commas, with none in front and none
behind. `pieces` cuts a line at its commas. The empty line has one piece, the
empty text.
-/

namespace Fixture

/-- How a value is written in a line. -/
class Display (α : Type) where
  display : α → String

export Display (display)

instance : Display String := ⟨id⟩
instance : Display Char := ⟨String.singleton⟩
instance : Display Int := ⟨Numeral.decimal⟩
instance : Display Nat := ⟨fun n => Numeral.decimal n⟩

namespace Line

variable {α : Type} [Display α]

/-- The line of a list of values. -/
def join (values : List α) : String := ",".intercalate (values.map display)

/-- The texts between the commas of a line. -/
def pieces (line : String) : List String := (line.toList.splitOn ',').map String.ofList

@[simp] theorem join_nil : join ([] : List α) = "" := by simp [join]

@[simp] theorem join_singleton (v : α) : join [v] = display v := by simp [join]

@[simp] theorem join_cons_cons (v w : α) (values : List α) :
    join (v :: w :: values) = display v ++ "," ++ join (w :: values) := by
  simp [join]

end Line

end Fixture
