-- SUMMARY: Runs whose state and next value are known behind every number of values.
import Fixture.Run

/-!
# Courses

A course says where a run stands behind each number of its values, and which
value it gives there. Everything that can be asked of a run then has a closed
form in the number of values behind it.
-/

namespace Fixture.Run

variable {σ α : Type} [Run σ α]

/-! ## Taking in parts -/

theorem take_of_end {s : σ} (h : next? s = none) (n : Nat) : take n s = ([], s) := by
  cases n with
  | zero => rfl
  | succ n => rw [take_succ, h]

theorem take_add (m n : Nat) (s : σ) :
    take (m + n) s =
      ((take m s).1 ++ (take n (take m s).2).1, (take n (take m s).2).2) := by
  induction m generalizing s with
  | zero => rw [Nat.zero_add, take_zero, List.nil_append]
  | succ m ih =>
    rw [Nat.add_right_comm, take_succ, take_succ]
    cases h : next? s with
    | none => simp only [take_of_end h, List.append_nil]
    | some p => simp only [ih, List.cons_append]

/-- Taking more than is left takes what is left. -/
theorem take_of_remaining_le {n : Nat} {s : σ} (h : remaining s ≤ n) :
    take n s = take (remaining s) s := by
  induction n generalizing s with
  | zero => rw [Nat.le_zero.mp h]
  | succ n ih =>
    cases hnext : next? s with
    | none => rw [take_of_end hnext, take_of_end hnext]
    | some p =>
      have hsucc := remaining_eq_succ hnext
      have hrest := ih (s := p.2) (by omega)
      rw [hsucc, take_succ, take_succ, hnext]
      simp only [hrest]

theorem skip_eq_take (n : Nat) (s : σ) : skip n s = (take n s).2 := by
  induction n generalizing s with
  | zero => rfl
  | succ n ih =>
    unfold skip
    rw [take_succ]
    cases next? s with
    | none => rfl
    | some p => exact ih p.2

theorem skip_eq_self {s : σ} (h : next? s = none) (n : Nat) : skip n s = s := by
  rw [skip_eq_take, take_of_end h]

theorem skip_add (m n : Nat) (s : σ) : skip (m + n) s = skip n (skip m s) := by
  rw [skip_eq_take, skip_eq_take, skip_eq_take, take_add]

theorem snd_advance (s : σ) : (advance s).2 = skip 1 s := by
  unfold advance skip
  cases next? s with
  | none => rfl
  | some p => rfl

theorem snd_nth (n : Nat) (s : σ) : (nth n s).2 = skip (n + 1) s := by
  unfold nth
  rw [snd_advance, skip_add]

/-- The states of a run from its first value to its end. -/
structure Course (σ α : Type) [Run σ α] where
  /-- The run behind this many of its values. -/
  state : Nat → σ
  /-- The value given behind this many others. -/
  value : Nat → α
  total : Nat
  next?_of_lt {c : Nat} : c < total → next? (state c) = some (value c, state (c + 1))
  next?_total : next? (state total) = none

namespace Course

variable (course : Course σ α) {c : Nat} (hc : c ≤ course.total)
include hc

theorem remaining_state : remaining (course.state c) = course.total - c := by
  obtain ⟨left, hleft⟩ := Nat.exists_eq_add_of_le hc
  induction left generalizing c with
  | zero =>
    obtain rfl : course.total = c := hleft
    rw [remaining_eq_zero course.next?_total, Nat.sub_self]
  | succ left ih =>
    rw [remaining_eq_succ (course.next?_of_lt (by omega)), ih (c := c + 1) (by omega) (by omega)]
    omega

theorem take_state (n : Nat) :
    take n (course.state c) =
      ((List.range' c (min n (course.total - c))).map course.value,
        course.state (min (c + n) course.total)) := by
  induction n generalizing c with
  | zero => simp [Nat.min_eq_left hc]
  | succ n ih =>
    rw [take_succ]
    rcases Nat.lt_or_eq_of_le hc with hlt | rfl
    · have hmin : min (n + 1) (course.total - c) = min n (course.total - (c + 1)) + 1 := by omega
      have hstate : c + 1 + n = c + (n + 1) := by omega
      simp only [course.next?_of_lt hlt, ih (c := c + 1) hlt, hmin, hstate, List.range'_succ,
        List.map_cons]
    · simp [course.next?_total]

theorem skip_state (n : Nat) :
    skip n (course.state c) = course.state (min (c + n) course.total) := by
  rw [skip_eq_take, course.take_state hc]

theorem advance_state :
    advance (course.state c) =
      (if c < course.total then some (course.value c) else none,
        course.state (min (c + 1) course.total)) := by
  unfold advance
  rcases Nat.lt_or_eq_of_le hc with hlt | rfl
  · simp only [course.next?_of_lt hlt, hlt, if_true, Nat.min_eq_left hlt]
  · simp [course.next?_total]

theorem nth_state (n : Nat) :
    nth n (course.state c) =
      (if c + n < course.total then some (course.value (c + n)) else none,
        course.state (min (c + n + 1) course.total)) := by
  unfold nth
  rw [course.skip_state hc, course.advance_state (Nat.min_le_right _ _)]
  rcases Nat.lt_or_ge (c + n) course.total with hlt | hge
  · rw [Nat.min_eq_left (Nat.le_of_lt hlt)]
  · rw [Nat.min_eq_right hge, Nat.min_eq_right (Nat.le_succ _),
      Nat.min_eq_right (Nat.le_succ_of_le hge), if_neg (Nat.lt_irrefl _), if_neg (Nat.not_lt.mpr hge)]

theorem values_state :
    values (course.state c) = (List.range' c (course.total - c)).map course.value := by
  unfold values
  rw [course.remaining_state hc, course.take_state hc, Nat.min_self]

theorem count_state : count (course.state c) = course.total - c := by
  unfold count
  rw [course.values_state hc, List.length_map, List.length_range']

theorem last?_state :
    last? (course.state c) =
      if c < course.total then some (course.value (course.total - 1)) else none := by
  unfold last?
  rw [course.values_state hc, List.getLast?_map, List.getLast?_range']
  rcases Nat.lt_or_eq_of_le hc with hlt | rfl
  · have hpos : course.total - c ≠ 0 := by omega
    have hlast : c + (course.total - c) - 1 = course.total - 1 := by omega
    simp [hpos, hlt, hlast]
  · simp

omit hc in
theorem remaining_start : remaining (course.state 0) = course.total :=
  course.remaining_state (Nat.zero_le _)

omit hc in
theorem values_start : values (course.state 0) = (List.range course.total).map course.value := by
  rw [course.values_state (Nat.zero_le _), Nat.sub_zero, List.range_eq_range']

end Course

end Fixture.Run
