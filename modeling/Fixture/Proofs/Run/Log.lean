-- SUMMARY: Maps between runs that keep their values, and runs that remember the values they gave.
import Fixture.Proofs.Run.Course

/-!
# Logged runs

A logged run is a run together with all values it has given. It is a run itself,
and forgetting the log is a map that keeps the values, so that whatever is done
to a logged run can be seen as done to the run in it.
-/

namespace Fixture

namespace Run

/-! ## Maps between runs -/

variable {σ τ α : Type} [Run σ α] [Run τ α]

/-- The values given are the same on both sides of the map. -/
def KeepsValues (f : σ → τ) : Prop := ∀ s, next? (f s) = (next? s).map (Prod.map id f)

namespace KeepsValues

variable {f : σ → τ} (hf : KeepsValues f)
include hf

theorem next?_eq_none {s : σ} (h : next? s = none) : next? (f s) = none := by
  rw [hf s, h, Option.map_none]

theorem next?_eq_some {s t : σ} {v : α} (h : next? s = some (v, t)) :
    next? (f s) = some (v, f t) := by
  rw [hf s, h]
  rfl

theorem remaining_eq (s : σ) : remaining (f s) = remaining s := by
  obtain ⟨n, hn⟩ : ∃ n, remaining s = n := ⟨_, rfl⟩
  induction n generalizing s with
  | zero =>
    cases h : next? s with
    | none => rw [hn, remaining_eq_zero (hf.next?_eq_none h)]
    | some p =>
      have := remaining_eq_succ h
      omega
  | succ n ih =>
    cases h : next? s with
    | none =>
      have := remaining_eq_zero h
      omega
    | some p =>
      have hsucc := remaining_eq_succ h
      rw [hsucc, remaining_eq_succ (hf.next?_eq_some h), ih p.2 (by omega)]

theorem take_eq (n : Nat) (s : σ) : take n (f s) = (take n s).map id f := by
  induction n generalizing s with
  | zero => rfl
  | succ n ih =>
    rw [take_succ, take_succ]
    cases h : next? s with
    | none => rw [hf.next?_eq_none h]; rfl
    | some p => simp only [hf.next?_eq_some h, ih p.2]; rfl

theorem advance_eq (s : σ) : advance (f s) = (advance s).map id f := by
  unfold advance
  cases h : next? s with
  | none => rw [hf.next?_eq_none h]; rfl
  | some p => rw [hf.next?_eq_some h]; rfl

theorem nth_eq (n : Nat) (s : σ) : nth n (f s) = (nth n s).map id f := by
  have hskip : skip n (f s) = f (skip n s) := by
    rw [skip_eq_take, skip_eq_take, hf.take_eq]
    rfl
  unfold nth
  rw [hskip, hf.advance_eq]

theorem values_eq (s : σ) : values (f s) = values s := by
  unfold values
  rw [hf.remaining_eq, hf.take_eq]
  rfl

end KeepsValues

/-! ## Logged runs -/

/-- A run and the values it has given so far, the first one in front. -/
structure Logged (σ α : Type) where
  run : σ
  given : List α

namespace Logged

/-- A run that has given no value yet. -/
def fresh (s : σ) : Logged σ α := ⟨s, []⟩

instance : Run (Logged σ α) α where
  next? l := (next? l.run).map fun p => (p.1, ⟨p.2, l.given ++ [p.1]⟩)
  remaining l := remaining l.run
  remaining_eq_zero h := remaining_eq_zero (Option.map_eq_none_iff.mp h)
  remaining_eq_succ h := by
    obtain ⟨p, hp, heq⟩ := Option.map_eq_some_iff.mp h
    obtain ⟨rfl, rfl⟩ := Prod.mk.inj heq
    exact remaining_eq_succ hp

theorem keepsValues_run : KeepsValues (Logged.run : Logged σ α → σ) := by
  intro l
  show next? l.run = ((next? l.run).map _).map _
  cases next? l.run with
  | none => rfl
  | some p => rfl

end Logged

/-- A run on its course has given the values of the course up to its place. -/
def Course.logged (course : Course σ α) : Course (Logged σ α) α where
  state c := ⟨course.state c, (List.range c).map course.value⟩
  value := course.value
  total := course.total
  next?_of_lt h := by
    show (next? (course.state _)).map _ = _
    rw [course.next?_of_lt h, Option.map_some, List.range_succ, List.map_append]
    rfl
  next?_total := by
    show (next? (course.state _)).map _ = _
    rw [course.next?_total, Option.map_none]

end Run

end Fixture
