-- SUMMARY: The status, output and error lines of every run.
import Fixture.Proofs.Command.Request
import Fixture.Proofs.Sink
import Fixture.Proofs.Text.Utf8
import Fixture.Command.Outcome

/-!
# Outcomes of runs

A run fails when its count is zero, or positive with nowhere to write the line.
Then it writes nothing, and one line about the error stands behind the log. Each
event that the filter lets through has one line in the log.
-/

namespace Fixture

open Text (ControlFree)

/-- The text of lines, each with a newline behind it. -/
def Text.unlines (lines : List String) : String := String.join (lines.map (· ++ "\n"))

@[simp] theorem Text.unlines_append (front back : List String) :
    unlines (front ++ back) = unlines front ++ unlines back := by
  simp [unlines]

@[simp] theorem Text.unlines_singleton (line : String) : unlines [line] = line ++ "\n" := by
  simp [unlines]

/-! ## Logs -/

namespace Environment

/-- The events that pass the filter. -/
def shown (env : Environment) (events : List Event) : List Event :=
  events.filter (Filter.ofText? env.filter).passes

theorem mem_of_mem_shown {env : Environment} {events : List Event} {e : Event}
    (h : e ∈ env.shown events) : e ∈ events :=
  List.mem_of_mem_filter h

theorem join_logLines (env : Environment) (events : List Event) :
    String.join (env.logLines events) =
      Text.unlines ((env.shown events).map (Event.entry env.time)) := by
  simp only [logLines, shown, Text.unlines, Event.logLine_eq, List.map_map, Function.comp_def]

end Environment

/-! ## Texts of errors -/

namespace FixtureError

theorem controlFree_missingCount {what : String} (h : ControlFree what) :
    ControlFree (missingCount what).message := by
  have hrest : ControlFree " should be provided as parameter" := by decide
  exact Text.controlFree_append.mpr ⟨h, hrest⟩

theorem controlFree_io {failure : Failure} (h : ControlFree failure.text) :
    ControlFree (io failure).message := by
  have hfront : ControlFree "failed to write fixture: " := by decide
  exact Text.controlFree_append.mpr ⟨hfront, h⟩

end FixtureError

/-! ## Writing to a device -/

namespace Output

/-- Only a captured output can be written to. -/
theorem exists_failure? {output : Output} (h : output ≠ .captured) : ∃ failure,
    output.failure? = some failure ∧ failure.kind ≠ .interrupted ∧ ControlFree failure.text := by
  cases output with
  | captured => contradiction
  | full => exact ⟨_, rfl, by decide, by decide⟩
  | broken => exact ⟨_, rfl, by decide, by decide⟩

/-- Nothing of a line reaches a failing device. -/
theorem writeFixture_of_failure? {output : Output} {failure : Failure}
    (h : output.failure? = some failure) (hkind : failure.kind ≠ .interrupted) {line : String}
    (hline : line ≠ "") : (output.sink.writeFixture line).1 = .error (.io failure) := by
  have hbytes : Text.encode line ≠ [] := fun hnil => hline (Text.encode_injective hnil)
  have hoffer : (offer output.sink.writes (Text.encode line)).failure = some failure := by
    obtain ⟨b, bytes, hcons⟩ := List.exists_cons_of_ne_nil hbytes
    simp [sink, h, hcons, offer, hkind]
  rw [Sink.writeFixture_of_cut hoffer]

/-- The empty line needs no device. -/
theorem writeFixture_of_ok {output : Output} {line : String}
    (h : line = "" ∨ output = .captured) : (output.sink.writeFixture line).1 = .ok () := by
  have hoffer : (offer output.sink.writes (Text.encode line)).failure = none := by
    rcases h with rfl | rfl
    · have hnil : Text.encode "" = [] := rfl
      rw [hnil, offer]
    · have hwrites : captured.sink.writes = [] := rfl
      rw [hwrites]
      cases Text.encode line <;> rfl
  rw [Sink.writeFixture_of_whole hoffer]
  rfl

end Output

/-! ## Runs of a request -/

/-- What the outcome of a request shows of its count and of what was generated. -/
structure Outcome.Shows (o : Outcome) (env : Environment) (count : Int) (generated : Generated) :
    Prop where
  negative : count < 0 → o.status.code = 0 ∧ o.stdout = ""
  captured : env.output = .captured → o.stdout = generated.line.toOption.getD ""
  alphabet : ∀ c ∈ o.stdout.toList, c ∈ Line.alphabet
  /-- The lines on standard error are an entry for each event that is shown, and one
      about the error if there is one. -/
  lines : ∃ errors : List String,
    o.stderr =
      Text.unlines ((env.shown generated.events).map (Event.entry env.time) ++ errors) ∧
    (if o.status.code = 1 then ∃ message, errors = ["error: " ++ message] else errors = []) ∧
    (ControlFree env.time →
      ∀ line ∈ (env.shown generated.events).map (Event.entry env.time) ++ errors,
        ControlFree line) ∧
    (errors ≠ [] → ∀ e ∈ env.shown generated.events, e.level ≠ .warn)

namespace Request

/-- There is nothing to write, or nowhere to write it. -/
def Fails (r : Request) (output : Output) : Prop :=
  r.count = 0 ∨ 0 < r.count ∧ output ≠ .captured

variable {r : Request} {env : Environment}

theorem run_of_error {e : FixtureError} (h : r.generate.line = .error e) :
    r.run env =
      ⟨.failure, "", env.logLines r.generate.events, "error: " ++ e.message ++ "\n"⟩ := by
  simp only [run, Generated.finish]
  rw [h]
  rfl

theorem run_of_ok {line : String} (h : r.generate.line = .ok line)
    (hwrite : (env.output.sink.writeFixture line).1 = .ok ()) :
    r.run env = ⟨.success, line, env.logLines r.generate.events, ""⟩ := by
  simp only [run, Generated.finish, h, Except.bind, hwrite, Except.map]

theorem run_of_fault {line : String} {e : FixtureError} (h : r.generate.line = .ok line)
    (hwrite : (env.output.sink.writeFixture line).1 = .error e) :
    r.run env =
      ⟨.failure, "", env.logLines r.generate.events, "error: " ++ e.message ++ "\n"⟩ := by
  simp only [run, Generated.finish, h, Except.bind, hwrite, Except.map]

theorem run_of_fails (h : r.Fails env.output) :
    ∃ message, ControlFree message ∧ r.run env =
      ⟨.failure, "", env.logLines r.generate.events, "error: " ++ message ++ "\n"⟩ := by
  rcases h with hzero | ⟨hpos, hcaptured⟩
  · obtain ⟨-, what, hwhat, hline⟩ := r.fits_generate.zero hzero
    exact ⟨_, FixtureError.controlFree_missingCount hwhat, run_of_error hline⟩
  · -- The line is not empty, so the device is asked to take a byte.
    obtain ⟨line, hline, hne⟩ := r.fits_generate.positive hpos
    obtain ⟨failure, hfailure, hkind, htext⟩ := Output.exists_failure? hcaptured
    have hfault := Output.writeFixture_of_failure? hfailure hkind hne
    exact ⟨_, FixtureError.controlFree_io htext, run_of_fault hline hfault⟩

theorem run_of_not_fails (h : ¬ r.Fails env.output) :
    ∃ line, r.generate.line = .ok line ∧
      r.run env = ⟨.success, line, env.logLines r.generate.events, ""⟩ := by
  obtain ⟨hzero, hpos⟩ := not_or.mp h
  rcases Int.lt_or_gt_of_ne hzero with hneg | hgt
  · have hline := r.fits_generate.negative hneg
    exact ⟨"", hline, run_of_ok hline (Output.writeFixture_of_ok (.inl rfl))⟩
  · obtain ⟨line, hline, -⟩ := r.fits_generate.positive hgt
    have hcaptured : env.output = .captured := by
      by_contra hne
      exact hpos ⟨hgt, hne⟩
    exact ⟨line, hline, run_of_ok hline (Output.writeFixture_of_ok (.inr hcaptured))⟩

/-! ### Standard output -/

instance (r : Request) (output : Output) : Decidable (r.Fails output) :=
  inferInstanceAs (Decidable (_ ∨ _))

theorem status_run : (r.run env).status = if r.Fails env.output then .failure else .success := by
  split
  case isTrue h =>
    obtain ⟨message, -, hrun⟩ := run_of_fails h
    rw [hrun]
  case isFalse h =>
    obtain ⟨line, -, hrun⟩ := run_of_not_fails h
    rw [hrun]

theorem code_run_eq_one_iff : (r.run env).status.code = 1 ↔ r.Fails env.output := by
  rw [status_run]
  split <;> simp [Status.code, *]

/-- The line is written as it is, or nothing is. -/
theorem stdout_run (r : Request) (env : Environment) :
    (r.run env).stdout = "" ∨ r.generate.line = .ok (r.run env).stdout := by
  by_cases h : r.Fails env.output
  · obtain ⟨message, -, hrun⟩ := run_of_fails h
    exact .inl (by rw [hrun])
  · obtain ⟨line, hline, hrun⟩ := run_of_not_fails h
    exact .inr (by rw [hrun, hline])

theorem mem_alphabet_of_mem_stdout_run {c : Char} (h : c ∈ (r.run env).stdout.toList) :
    c ∈ Line.alphabet := by
  rcases r.stdout_run env with hempty | hline
  · rw [hempty] at h
    exact absurd h List.not_mem_nil
  · exact r.fits_generate.alphabet _ hline c h

theorem stdout_run_of_captured (hcaptured : env.output = .captured) :
    (r.run env).stdout = r.generate.line.toOption.getD "" := by
  by_cases h : r.Fails env.output
  · have hzero : r.count = 0 := h.resolve_right fun hfull => hfull.2 hcaptured
    obtain ⟨-, what, -, hline⟩ := r.fits_generate.zero hzero
    obtain ⟨message, -, hrun⟩ := run_of_fails h
    rw [hrun, hline]
    rfl
  · obtain ⟨line, hline, hrun⟩ := run_of_not_fails h
    rw [hrun, hline]
    rfl

theorem run_of_neg (h : r.count < 0) :
    r.run env = ⟨.success, "", env.logLines r.generate.events, ""⟩ :=
  run_of_ok (r.fits_generate.negative h) (Output.writeFixture_of_ok (.inl rfl))

/-- There is nothing to write, so that the device does not matter. -/
example : (keys (-2)).run ⟨none, .broken, "<time>"⟩ =
    ⟨.success, "", ["<time>  WARN negative count, emitting no keys count=-2\n"], ""⟩ := by decide

/-! ### Standard error -/

theorem not_warn_of_fails {output : Output} (h : r.Fails output) :
    ∀ e ∈ r.generate.events, e.level ≠ .warn := by
  intro e he hwarn
  have hneg := r.fits_generate.warning e he hwarn
  rcases h with hzero | ⟨hpos, -⟩ <;> omega

theorem controlFree_of_mem_entries (htime : ControlFree env.time) {line : String}
    (h : line ∈ (env.shown r.generate.events).map (Event.entry env.time)) : ControlFree line := by
  obtain ⟨e, he, rfl⟩ := List.mem_map.mp h
  have hevent := r.fits_generate.controlFree e (Environment.mem_of_mem_shown he)
  exact Event.controlFree_entry htime hevent

/-- The lines of a run: the entries of the log, and one about the error of a run
    that fails. -/
theorem stderr_run (r : Request) (env : Environment) : ∃ errors : List String,
    (r.run env).stderr =
      Text.unlines ((env.shown r.generate.events).map (Event.entry env.time) ++ errors) ∧
    (∀ line ∈ errors, ControlFree line) ∧
    if r.Fails env.output then ∃ message, errors = ["error: " ++ message] else errors = [] := by
  split
  case isTrue h =>
    obtain ⟨message, hmessage, hrun⟩ := run_of_fails h
    have hlead : ControlFree "error: " := by decide
    refine ⟨["error: " ++ message], ?_, ?_, message, rfl⟩
    · rw [hrun, Outcome.stderr, Environment.join_logLines, Text.unlines_append,
        Text.unlines_singleton]
    · intro line hline
      rw [List.mem_singleton.mp hline]
      exact Text.controlFree_append.mpr ⟨hlead, hmessage⟩
  case isFalse h =>
    obtain ⟨line, -, hrun⟩ := run_of_not_fails h
    refine ⟨[], ?_, by simp, rfl⟩
    rw [hrun, Outcome.stderr, Environment.join_logLines, List.append_nil, String.append_empty]

theorem shows_run (r : Request) (env : Environment) :
    (r.run env).Shows env r.count r.generate where
  negative h := by
    rw [run_of_neg h]
    exact ⟨rfl, rfl⟩
  captured := stdout_run_of_captured
  alphabet _ := mem_alphabet_of_mem_stdout_run
  lines := by
    obtain ⟨errors, hstderr, hfree, herrors⟩ := r.stderr_run env
    refine ⟨errors, hstderr, ?_, ?_, ?_⟩
    · simp only [code_run_eq_one_iff]
      exact herrors
    · intro htime line hline
      rcases List.mem_append.mp hline with hentry | herror
      · exact controlFree_of_mem_entries htime hentry
      · exact hfree line herror
    · intro hne e he
      have hfails : r.Fails env.output := by
        by_contra hnot
        rw [if_neg hnot] at herrors
        exact hne herrors
      exact not_warn_of_fails hfails e (Environment.mem_of_mem_shown he)

end Request

/-! ## Runs of a program -/

namespace Program

variable {p : Program} {env : Environment} {args : List Argument}

theorem run_of_request {r : Request} (h : p.read args = .ok (.request r)) :
    p.run env args = r.run env := by
  rw [run, h]

theorem code_run_eq_one_iff : (p.run env args).status.code = 1 ↔
    ∃ r, p.read args = .ok (.request r) ∧ r.Fails env.output := by
  unfold run
  cases p.read args with
  | error e => simp [Status.code]
  | ok invocation =>
    cases invocation with
    | help topic => simp [Status.code]
    | version => simp [Status.code]
    | request r => simp [Request.code_run_eq_one_iff]

theorem stdout_run_of_code_ne_zero (h : (p.run env args).status.code ≠ 0) :
    (p.run env args).stdout = "" := by
  revert h
  unfold run
  cases p.read args with
  | error e => exact fun _ => rfl
  | ok invocation =>
    cases invocation with
    | help topic => exact fun h => absurd rfl h
    | version => exact fun h => absurd rfl h
    | request r =>
      intro h
      by_cases hfails : r.Fails env.output
      · obtain ⟨message, -, hrun⟩ := Request.run_of_fails hfails
        simp [hrun]
      · simp [Request.status_run, hfails, Status.code] at h

/-- How a run ends, and what it leaves on standard output and standard error. -/
theorem run_outcome (p : Program) (env : Environment) (args : List Argument) :
    let o := p.run env args
    o.status.code ∈ [0, 1, 2] ∧
    (o.status.code = 1 ↔ ∃ r, p.read args = .ok (.request r) ∧
      (r.count = 0 ∨ 0 < r.count ∧ env.output ≠ .captured)) ∧
    (o.status.code ≠ 0 → o.stdout = "") ∧
    (∀ count start, p.read args = .ok (.request (.highest count start)) →
      o.Shows env count (Generate.highestValues count start)) ∧
    ∀ count, p.read args = .ok (.request (.keys count)) →
      o.Shows env count (Generate.privateKeys count) := by
  intro o
  have hshows (r : Request) (hread : p.read args = .ok (.request r)) :
      o.Shows env r.count r.generate := by
    have ho : o = r.run env := run_of_request hread
    rw [ho]
    exact r.shows_run env
  refine ⟨?_, code_run_eq_one_iff, stdout_run_of_code_ne_zero, ?_, ?_⟩
  · cases o.status <;> decide
  · intro count start
    exact hshows (.highest count start)
  · intro count
    exact hshows (.keys count)

end Program

end Fixture
