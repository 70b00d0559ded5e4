-- SUMMARY: The courses of key runs and of ascending runs.
import Fixture.Proofs.Run.Course
import Fixture.Run.Ascending
import Fixture.Run.Keys
import Mathlib.Data.Nat.Choose.Basic
import Mathlib.Order.Monotone.Basic

/-!
# Closed forms of the two runs

A key run adds its index to the sum and moves the index on, so that behind `c`
keys the sum is the base key and the numbers below `c`. An ascending run is
behind `c` integers when its next one is `c` past the start.
-/

namespace Fixture

/-! ## Key runs -/

namespace KeyRun

/-- The key at an index. -/
def key (i : Nat) : Nat := baseKey + i * (i + 1) / 2

/-- The key run of a count behind its first `c` keys. -/
def behind (count : Int) (c : Nat) : KeyRun :=
  { acc := baseKey + c * (c - 1) / 2
    index := c
    last := if count < 0 then none else some count.toNat }

theorem key_succ (i : Nat) : key (i + 1) = key i + (i + 1) := by
  have htriangle := Nat.triangle_succ (i + 1)
  rw [Nat.add_sub_cancel, Nat.add_sub_cancel, Nat.mul_comm, Nat.mul_comm (i + 1) i] at htriangle
  unfold key
  rw [htriangle, Nat.add_assoc]

theorem key_strictMono : StrictMono key := by
  apply strictMono_nat_of_lt_succ
  intro i
  rw [key_succ]
  omega

/-- The sum behind some keys is the last of them. -/
theorem behind_succ (count : Int) (c : Nat) :
    behind count (c + 1) = { behind count c with acc := key c, index := c + 1 } := by
  unfold behind key
  rw [Nat.add_sub_cancel, Nat.mul_comm]

theorem acc_add_index (count : Int) (c : Nat) :
    (behind count c).acc + (behind count c).index = key c := by
  cases c with
  | zero => rfl
  | succ c => rw [behind_succ, key_succ]

def course (count : Int) : Run.Course KeyRun Nat where
  state := behind count
  value := key
  total := (count + 1).toNat
  next?_of_lt {c} h := by
    have hcount : ¬ count < 0 := by omega
    have hindex : ¬ (behind count c).index > count.toNat := by
      simp only [behind]
      omega
    have hlast : (behind count c).last = some count.toNat := if_neg hcount
    show next? (behind count c) = _
    simp only [next?, hlast, hindex, if_false, acc_add_index, behind_succ]
    rfl
  next?_total := by
    show next? _ = _
    by_cases hcount : count < 0
    · simp [next?, behind, hcount]
    · have hindex : (count + 1).toNat > count.toNat := by omega
      simp [next?, behind, hcount, hindex]

theorem remaining_ofCount (count : Int) : Run.remaining (ofCount count) = (count + 1).toNat :=
  (course count).remaining_start

theorem values_ofCount (count : Int) :
    Run.values (ofCount count) = (List.range (count + 1).toNat).map key :=
  (course count).values_start

end KeyRun

/-! ## Ascending runs -/

namespace Ascending

/-- The run of a count and a start behind its first `c` integers. -/
def behind (count start : Int) (c : Nat) : Ascending :=
  { next := start + c
    last := start + count }

@[simp] theorem behind_zero (count start : Int) : behind count start 0 = ofCount count start := by
  simp [behind, ofCount]

def course (count start : Int) : Run.Course Ascending Int where
  state := behind count start
  value c := start + c
  total := (count + 1).toNat
  next?_of_lt {c} h := by
    have hnext : ¬ start + (c : Int) > start + count := by omega
    simp only [Run.next?, behind, hnext, if_false]
    simp [Int.add_assoc]
  next?_total := by
    have hnext : start + ((count + 1).toNat : Int) > start + count := by omega
    exact if_pos hnext

theorem remaining_ofCount (count start : Int) :
    Run.remaining (ofCount count start) = (count + 1).toNat := by
  rw [← behind_zero]
  exact (course count start).remaining_start

theorem values_ofCount (count start : Int) :
    Run.values (ofCount count start) =
      (List.range (count + 1).toNat).map fun (k : Nat) => start + (k : Int) := by
  rw [← behind_zero]
  exact (course count start).values_start

end Ascending

end Fixture
