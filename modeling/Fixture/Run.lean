-- SUMMARY: Runs of values, handed out one at a time, and how to take several of them.

/-!
# Runs

A run is a finite supply of values. `next?` gives the next value and the run
behind it, or nothing at the end. `remaining` says how many values are left, so
that all of them can be taken by recursion on a number. An operation that meets
the end leaves the run as it is.
-/

namespace Fixture

class Run (σ : Type) (α : outParam Type) where
  next? : σ → Option (α × σ)
  remaining : σ → Nat
  remaining_eq_zero {s : σ} : next? s = none → remaining s = 0
  remaining_eq_succ {s t : σ} {v : α} : next? s = some (v, t) → remaining s = remaining t + 1

namespace Run

variable {σ α : Type} [Run σ α]

/-! ## Taking and skipping -/

/-- Take at most `n` values, behind those already taken. -/
def takeOnto (taken : Array α) : Nat → σ → Array α × σ
  | 0, s => (taken, s)
  | n + 1, s =>
    match next? s with
    | none => (taken, s)
    | some (v, t) => takeOnto (taken.push v) n t

/-- Take at most `n` values. The run moves on by exactly those. -/
def take (n : Nat) (s : σ) : List α × σ :=
  let (taken, t) := takeOnto #[] n s
  (taken.toList, t)

/-- Move on by at most `n` values. -/
def skip : Nat → σ → σ
  | 0, s => s
  | n + 1, s =>
    match next? s with
    | none => s
    | some (_, t) => skip n t

/-- The next value, and the run behind it. At the end the run stays. -/
def advance (s : σ) : Option α × σ :=
  match next? s with
  | none => (none, s)
  | some (v, t) => (some v, t)

/-- The value behind `n` skipped ones. -/
def nth (n : Nat) (s : σ) : Option α × σ := advance (skip n s)

/-! ## The rest of a run -/

/-- All values that are left. -/
def values (s : σ) : List α := (take (remaining s) s).1

/-- How many values are left, found by taking them. -/
def count (s : σ) : Nat := (values s).length

def last? (s : σ) : Option α := (values s).getLast?

/-! ## Equations for `take` -/

theorem toList_takeOnto (taken : Array α) (n : Nat) (s : σ) :
    (takeOnto taken n s).1.toList = taken.toList ++ (take n s).1 ∧
      (takeOnto taken n s).2 = (take n s).2 := by
  induction n generalizing taken s with
  | zero => simp [take, takeOnto]
  | succ n ih =>
    simp only [take, takeOnto]
    cases next? s with
    | none => simp
    | some p =>
      obtain ⟨v, t⟩ := p
      have h := ih #[v] t
      simp [ih (taken.push v) t, h.1, h.2]

@[simp] theorem take_zero (s : σ) : take 0 s = ([], s) := rfl

theorem take_succ (n : Nat) (s : σ) :
    take (n + 1) s =
      match next? s with
      | none => ([], s)
      | some (v, t) => (v :: (take n t).1, (take n t).2) := by
  rw [take, takeOnto]
  cases next? s with
  | none => rfl
  | some p =>
    obtain ⟨v, t⟩ := p
    have h := toList_takeOnto #[v] n t
    simp [h.1, h.2]

end Run

end Fixture
