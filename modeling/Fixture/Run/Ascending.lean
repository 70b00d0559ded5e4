-- SUMMARY: The run of consecutive integers between two bounds, both included.
import Fixture.Line
import Fixture.Run

/-!
# Ascending runs

The run of a count and a start holds `start` to `start + count`. A count of zero
gives one value, a negative count gives none.
-/

namespace Fixture

structure Ascending where
  next : Int
  last : Int
deriving DecidableEq, Repr

namespace Ascending

def ofCount (count start : Int) : Ascending := ⟨start, start + count⟩

instance : Run Ascending Int where
  next? s := if s.next > s.last then none else some (s.next, { s with next := s.next + 1 })
  remaining s := (s.last + 1 - s.next).toNat
  remaining_eq_zero h := by
    split at h
    · omega
    · simp at h
  remaining_eq_succ h := by
    split at h
    · simp at h
    · simp only [Option.some.injEq, Prod.mk.injEq] at h
      obtain ⟨rfl, rfl⟩ := h
      simp only
      omega

/-- The state of the run, written out. -/
def describe (s : Ascending) : String :=
  "HighestValues \x7b next: " ++ display s.next ++ ", end: " ++ display s.last ++ " \x7d"

end Ascending

end Fixture
