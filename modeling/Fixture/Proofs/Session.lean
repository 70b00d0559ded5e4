-- SUMMARY: What the steps of a session do to its slots, and where the runs in the slots stand.
import Fixture.Proofs.Run.Log
import Fixture.Run.Session

/-!
# Sessions on a course

A step moves the run in the current slot on, or adds a copy of it. So the run in
a slot is always on its course, and a log beside it tells how far: the log has
one entry for each value given, by the steps on the slot itself and by those on
the slot it was copied from, up to the copy.
-/

namespace Fixture

/-- The most values a step takes from the current run. -/
def Step.reach : Step → Nat
  | .next => 1
  | .nth n => n + 1
  | .take n => n
  | .join n => n
  | .count | .last | .bounds | .fork | .use _ => 0

attribute [ext] Session

namespace Session

open Run

variable {σ τ α : Type}

theorem getElem?_current (session : Session σ) :
    session.slots[session.current]? = some session.run :=
  List.getElem?_eq_getElem session.current_lt

theorem run_mem (session : Session σ) : session.run ∈ session.slots :=
  List.getElem_mem session.current_lt

theorem set_current_run (session : Session σ) :
    session.slots.set session.current session.run = session.slots :=
  List.set_getElem_self session.current_lt

theorem run_put (session : Session σ) (s : σ) : (session.put s).run = s :=
  List.getElem_set_self _

/-! ## Maps between sessions -/

/-- Replace every run by another. -/
def map (f : σ → τ) (session : Session σ) : Session τ where
  slots := session.slots.map f
  current := session.current
  current_lt := by simpa using session.current_lt

section
variable {f : σ → τ} (session : Session σ)

theorem length_slots_map : (session.map f).slots.length = session.slots.length :=
  List.length_map f

theorem run_map : (session.map f).run = f session.run := by
  simp [run, map]

theorem map_put (s : σ) : (session.map f).put (f s) = (session.put s).map f := by
  ext : 1
  · simp [put, map, List.map_set]
  · rfl

theorem map_fork : (session.map f).fork = session.fork.map f := by
  ext : 1
  · simp only [fork, run_map]
    simp [map]
  · rfl

theorem map_use (slot : Nat) : (session.map f).use slot = (session.use slot).map f := by
  unfold use
  by_cases h : slot < session.slots.length
  · rw [dif_pos h, dif_pos (session.length_slots_map ▸ h)]
    rfl
  · rw [dif_neg h, dif_neg (session.length_slots_map ▸ h)]

end

variable [Run σ α] [Run τ α] [Display α]

/-- The same answer is given, and the map of the session is left behind. -/
theorem step_map {f : σ → τ} (hf : KeepsValues f) (session : Session σ) (st : Step) :
    (session.map f).step st = (session.step st).map id (Session.map f) := by
  cases st with
  | next => simp only [step, run_map, hf.advance_eq, Prod.map, id, map_put]
  | nth n => simp only [step, run_map, hf.nth_eq, Prod.map, id, map_put]
  | take n => simp only [step, run_map, hf.take_eq, Prod.map, id, map_put]
  | join n => simp only [step, run_map, hf.take_eq, Prod.map, id, map_put]
  | count => simp only [step, run_map, Run.count, hf.values_eq, Prod.map, id]
  | last => simp only [step, run_map, Run.last?, hf.values_eq, Prod.map, id]
  | bounds => rfl
  | fork => simp only [step, map_fork, length_slots_map, Prod.map, id]
  | use slot => simp only [step, map_use, Prod.map, id]; rfl

/-! ## Runs of steps -/

/-- The session behind some steps. -/
def after (session : Session σ) : List Step → Session σ
  | [] => session
  | st :: rest => (session.step st).2.after rest

/-- The last answer is that of the last step, in the session that the steps
    before it lead to. -/
theorem steps_concat (session : Session σ) (front : List Step) (st : Step) :
    session.steps (front ++ [st]) =
      session.steps front ++
        [(((session.after front).step st).1, ((session.after front).step st).2.run)] := by
  induction front generalizing session with
  | nil => rfl
  | cons s front ih =>
    simp only [List.cons_append, steps, after, ih]

theorem after_map {f : σ → τ} (hf : KeepsValues f) (session : Session σ) (sts : List Step) :
    (session.map f).after sts = (session.after sts).map f := by
  induction sts generalizing session with
  | nil => rfl
  | cons st sts ih =>
    unfold after
    rw [step_map hf]
    exact ih (session.step st).2

/-! ## Slots -/

/-- A fork adds a copy of the current run. Any other step leaves all runs in
    their slots and moves the current one on. -/
theorem slots_step (session : Session σ) (st : Step) :
    (session.step st).2.slots =
      if st = .fork then session.slots ++ [session.run]
      else session.slots.set session.current (skip st.reach session.run) := by
  cases st with
  | next => simp [step, put, snd_advance, Step.reach]
  | nth n => simp [step, put, snd_nth, Step.reach]
  | take n => simp [step, put, skip_eq_take, Step.reach]
  | join n => simp [step, put, skip_eq_take, Step.reach]
  | fork => simp [step, fork]
  | use slot =>
    simp only [step, use]
    split <;> simp [Step.reach, skip, set_current_run]
  | _ => simp [step, Step.reach, skip, set_current_run]

theorem getElem?_slots_step (session : Session σ) (st : Step) {i : Nat}
    (hi : i < session.slots.length) :
    (session.step st).2.slots[i]? =
      if i = session.current ∧ st ≠ .fork then some (skip st.reach session.run)
      else session.slots[i]? := by
  rw [slots_step]
  by_cases hfork : st = .fork
  · simp [hfork, List.getElem?_append_left hi]
  · by_cases hcurrent : i = session.current
    · simp [hfork, hcurrent, session.current_lt]
    · simp [hfork, hcurrent, List.getElem?_set_ne (Ne.symm hcurrent)]

/-- A step leaves the slots alone that are not current. -/
theorem getElem?_slots_step_of_ne (session : Session σ) (st : Step) {i : Nat}
    (hi : i < session.slots.length) (hne : i ≠ session.current) :
    (session.step st).2.slots[i]? = session.slots[i]? := by
  rw [session.getElem?_slots_step st hi, if_neg fun h => hne h.1]

theorem getElem?_slots_step_of_end {session : Session σ} {i : Nat} {s : σ}
    (hslot : session.slots[i]? = some s) (hend : next? s = none) (st : Step) :
    (session.step st).2.slots[i]? = some s := by
  obtain ⟨hi, -⟩ := List.getElem?_eq_some_iff.mp hslot
  rw [session.getElem?_slots_step st hi]
  split
  · rename_i h
    rw [h.1, session.getElem?_current] at hslot
    obtain rfl := Option.some.inj hslot
    rw [skip_eq_self hend]
  · exact hslot

/-- A run at its end stays there, whatever is done. -/
theorem getElem?_slots_after_of_end {session : Session σ} {i : Nat} {s : σ}
    (hslot : session.slots[i]? = some s) (hend : next? s = none) (sts : List Step) :
    (session.after sts).slots[i]? = some s := by
  induction sts generalizing session with
  | nil => exact hslot
  | cons st sts ih => exact ih (getElem?_slots_step_of_end hslot hend st)

/-! ## Courses -/

/-- The answers to the next step when the current run has given `c` of `total`
    values: each is looked up by its index in the values of the run. -/
structure Answers (session : Session σ) (value : Nat → α) (total c : Nat) : Prop where
  next : (session.step .next).1 = .value (if c < total then some (value c) else none)
  nth (n : Nat) : (session.step (.nth n)).1 =
    .value (if c + n < total then some (value (c + n)) else none)
  take (n : Nat) : (session.step (.take n)).1 =
    .values ((List.range' c (min n (total - c))).map value)
  join (n : Nat) : (session.step (.join n)).1 =
    .line (Line.join ((List.range' c (min n (total - c))).map value))
  count : (session.step .count).1 = .number (total - c)
  last : (session.step .last).1 =
    .value (if c < total then some (value (total - 1)) else none)

variable (course : Course σ α)

/-- Every run of the session stands on the course. -/
def OnCourse (session : Session σ) : Prop :=
  ∀ s ∈ session.slots, ∃ c ≤ course.total, s = course.state c

theorem onCourse_step {session : Session σ} (h : session.OnCourse course) (st : Step) :
    (session.step st).2.OnCourse course := by
  obtain ⟨c, hc, hrun⟩ := h session.run session.run_mem
  intro s hs
  rw [slots_step] at hs
  split at hs
  · rcases List.mem_append.mp hs with hold | hnew
    · exact h s hold
    · exact ⟨c, hc, (List.mem_singleton.mp hnew).trans hrun⟩
  · rcases List.mem_or_eq_of_mem_set hs with hold | rfl
    · exact h s hold
    · exact ⟨_, Nat.min_le_right _ _, hrun ▸ course.skip_state hc st.reach⟩

theorem onCourse_after {session : Session σ} (h : session.OnCourse course) (sts : List Step) :
    (session.after sts).OnCourse course := by
  induction sts generalizing session with
  | nil => exact h
  | cons st sts ih => exact ih (onCourse_step course h st)

theorem answers_of_run {session : Session σ} {c : Nat} (hc : c ≤ course.total)
    (hrun : session.run = course.state c) : session.Answers course.value course.total c where
  next := by simp only [step, hrun, course.advance_state hc, Prod.map]
  nth n := by simp only [step, hrun, course.nth_state hc, Prod.map]
  take n := by simp only [step, hrun, course.take_state hc, Prod.map]
  join n := by simp only [step, hrun, course.take_state hc, Prod.map, Function.comp]
  count := by simp only [step, hrun, course.count_state hc]
  last := by simp only [step, hrun, course.last?_state hc]

/-! ## Logged sessions -/

/-- The session of a run behind some steps. -/
def behind (s : σ) (sts : List Step) : Session σ := (start s).after sts

/-- The same session, in which every run remembers the values it gave. -/
def logged (s : σ) (sts : List Step) : Session (Logged σ α) := (start (Logged.fresh s)).after sts

/-- Keeping a log changes no run. -/
theorem map_run_logged (s : σ) (sts : List Step) : (logged s sts).map Logged.run = behind s sts :=
  (after_map Logged.keepsValues_run (start (Logged.fresh s)) sts).symm

/-- The log of a run tells where it stands, and which values it gave. -/
theorem slot_of_logged {sts : List Step} {slot : Logged σ α}
    (h : slot ∈ (logged (course.state 0) sts).slots) :
    slot.given.length ≤ course.total ∧ slot = course.logged.state slot.given.length := by
  have hstart : (start (Logged.fresh (course.state 0))).OnCourse course.logged := by
    intro s hs
    exact ⟨0, Nat.zero_le _, List.mem_singleton.mp hs⟩
  obtain ⟨c, hc, rfl⟩ := onCourse_after course.logged hstart sts slot h
  have hlength : (course.logged.state c).given.length = c := by
    simp [Course.logged]
  rw [hlength]
  exact ⟨hc, rfl⟩

theorem answers_behind (sts : List Step) :
    (behind (course.state 0) sts).Answers course.value course.total
      (logged (course.state 0) sts).run.given.length := by
  obtain ⟨hle, hstate⟩ := slot_of_logged course (logged (course.state 0) sts).run_mem
  apply answers_of_run course hle
  rw [← map_run_logged, run_map]
  exact congrArg Logged.run hstate

/-- A run that has given all its values gives no more, and its state stays. -/
theorem slot_of_logged_total {sts : List Step} {i : Nat} {slot : Logged σ α}
    (hslot : (logged (course.state 0) sts).slots[i]? = some slot)
    (htotal : slot.given.length = course.total) :
    next? slot.run = none ∧
      ∀ more, ((logged (course.state 0) sts).after more).slots[i]? = some slot := by
  have hstate := (slot_of_logged course (List.mem_of_getElem? hslot)).2
  rw [htotal] at hstate
  constructor
  · rw [hstate]
    exact course.next?_total
  · intro more
    exact getElem?_slots_after_of_end hslot (hstate ▸ course.logged.next?_total) more

/-! ## Closed forms -/

/-- The session of `s` behind some steps has a closed form: `state` and `value` give
    the state behind a number of values and the value there, `total` is how many
    there are, and `final` is the last of them. The logs count, for each slot, the
    values given on its way from the start, also those that were skipped. -/
structure Follows (s : σ) (sts : List Step) (total : Nat) (state : Nat → σ) (value : Nat → α)
    (final : α) : Prop where
  /-- The answer to one more step is its answer in the session behind the others. -/
  answered (st : Step) : (start s).steps (sts ++ [st]) = (start s).steps sts ++
    [(((behind s sts).step st).1, ((behind s sts).step st).2.run)]
  unlogged : (logged s sts).map Logged.run = behind s sts
  slots : ∀ slot ∈ (logged s sts).slots, slot.given.length ≤ total ∧
    slot.run = state slot.given.length ∧
    slot.given = (List.range slot.given.length).map value
  answers : (behind s sts).Answers value total (logged s sts).run.given.length
  last : ((behind s sts).step .last).1 =
    .value (if (logged s sts).run.given.length < total then some final else none)
  frame (st : Step) (i : Nat) : i < (behind s sts).slots.length → i ≠ (behind s sts).current →
    ((behind s sts).step st).2.slots[i]? = (behind s sts).slots[i]?
  stays (i : Nat) (slot : Logged σ α) : (logged s sts).slots[i]? = some slot →
    slot.given.length = total →
    next? slot.run = none ∧ ∀ more, ((logged s sts).after more).slots[i]? = some slot

/-- Every session on a course has the closed form of the course. -/
theorem follows_course {final : α}
    (hfinal : 0 < course.total → course.value (course.total - 1) = final) (sts : List Step) :
    Follows (course.state 0) sts course.total course.state course.value final where
  answered st := (start (course.state 0)).steps_concat sts st
  unlogged := map_run_logged (course.state 0) sts
  slots slot hslot := by
    obtain ⟨hle, hstate⟩ := slot_of_logged course hslot
    exact ⟨hle, congrArg Logged.run hstate, congrArg Logged.given hstate⟩
  answers := answers_behind course sts
  last := by
    rw [(answers_behind course sts).last]
    by_cases hlt : (logged (course.state 0) sts).run.given.length < course.total
    · rw [if_pos hlt, if_pos hlt, hfinal (Nat.zero_lt_of_lt hlt)]
    · rw [if_neg hlt, if_neg hlt]
  frame st _ hi hne := (behind (course.state 0) sts).getElem?_slots_step_of_ne st hi hne
  stays _ _ hslot htotal := slot_of_logged_total course hslot htotal

end Session

end Fixture
