-- SUMMARY: The run of accumulated keys over a fixed base key.
import Fixture.Line
import Fixture.Run

/-!
# Key runs

The keys are sums over the base key: the key at index `i` is the key before it
plus `i`, and the first is the base key itself. The run of a count ends with the
key at that index. A negative count has no last index and gives no keys. Keys
grow without bound.
-/

namespace Fixture

/-- The key at index zero. -/
def baseKey : Nat := 0x1002030405060708090a0b0c0d0e0f101112131415161718191a1b1c1d1e1fff

structure KeyRun where
  /-- The sum so far, which is the key given last. -/
  acc : Nat
  /-- The index of the next key. -/
  index : Nat
  /-- The index of the last key, if there are keys at all. -/
  last : Option Nat
deriving DecidableEq, Repr

namespace KeyRun

def ofCount (count : Int) : KeyRun :=
  ⟨baseKey, 0, if count < 0 then none else some count.toNat⟩

def next? (s : KeyRun) : Option (Nat × KeyRun) :=
  match s.last with
  | none => none
  | some last =>
    if s.index > last then none
    else some (s.acc + s.index, { s with acc := s.acc + s.index, index := s.index + 1 })

def remaining (s : KeyRun) : Nat :=
  match s.last with
  | none => 0
  | some last => last + 1 - s.index

instance : Run KeyRun Nat where
  next? := next?
  remaining := remaining
  remaining_eq_zero {s} h := by
    obtain ⟨acc, index, last⟩ := s
    cases last with
    | none => rfl
    | some last =>
      simp only [next?, remaining] at h ⊢
      split at h
      · omega
      · simp at h
  remaining_eq_succ {s t v} h := by
    obtain ⟨acc, index, last⟩ := s
    cases last with
    | none => simp [next?] at h
    | some last =>
      simp only [next?, remaining] at h ⊢
      split at h
      · simp at h
      · simp only [Option.some.injEq, Prod.mk.injEq] at h
        obtain ⟨rfl, rfl⟩ := h
        simp only
        omega

private def describeLast : Option Nat → String
  | none => "None"
  | some last => "Some(" ++ display last ++ ")"

/-- The state of the run, written out. -/
def describe (s : KeyRun) : String :=
  "PrivateKeys \x7b acc: " ++ display s.acc ++ ", x: " ++ display s.index ++
    ", end: " ++ describeLast s.last ++ " \x7d"

end KeyRun

end Fixture
