-- SUMMARY: Which runs of a task's command make a request, and how a subcommand differs from a program.
import Fixture.Command.Outcome
import Fixture.Proofs.Command.Reading

/-!
# Commands of a task

A task has two commands: a program of its own, and a subcommand of the suite.
Both make the same requests, and a request is all that a run depends on. They
differ in their help pages, and in the flag for the version, which only the
program has.
-/

namespace Fixture

/-- The arguments give an integer for each operand of the task. A hyphen in front
    of a separator is the sign of digits. -/
def Task.Accepts (task : Task) (args : List Argument) (values : List Int) : Prop :=
  (Argument.before args ++ Argument.behind args).length = task.operands.length ∧
  (Argument.before args ++ Argument.behind args).map Argument.integer? = values.map some ∧
  ∀ a ∈ Argument.before args, a.head? = some Argument.hyphen → a.IsMinusDigits

/-- Integers that are accepted make a request. -/
theorem Task.Accepts.exists_request {task : Task} {args : List Argument} {values : List Int}
    (h : task.Accepts args values) : ∃ request, task.request? values = some request := by
  obtain ⟨hlength, hintegers, -⟩ := h
  apply Option.isSome_iff_exists.mp
  rw [Task.request?_isSome_iff, ← hlength, ← List.length_map Argument.integer?, hintegers,
    List.length_map]

/-- Integers are accepted when their hyphens are signs of digits. -/
theorem Task.accepts_of_integers {task : Task} {args : List Argument} {values : List Int}
    (hlength : args.length = task.operands.length)
    (hintegers : args.map Argument.integer? = values.map some)
    (hsigns : ∀ a ∈ args, a.head? = some Argument.hyphen → a.IsMinusDigits) :
    task.Accepts args values := by
  obtain ⟨hbefore, hbehind⟩ :=
    Argument.before_append_behind_of_integers (Argument.exists_values_iff.mp ⟨values, hintegers⟩)
  unfold Task.Accepts
  rw [hbefore, hbehind, List.append_nil]
  exact ⟨hlength, hintegers, hsigns⟩

/-- Behind a separator a hyphen is the sign of any integer. -/
theorem Task.accepts_behind_separator {task : Task} {args : List Argument} {values : List Int}
    (hlength : args.length = task.operands.length)
    (hintegers : args.map Argument.integer? = values.map some) :
    task.Accepts (Argument.ofString "--" :: args) values := by
  have hseparator : (Argument.ofString "--").isSeparator = true := by decide
  unfold Task.Accepts
  rw [Argument.before_of_isSeparator hseparator, Argument.behind_of_isSeparator hseparator,
    List.nil_append]
  exact ⟨hlength, hintegers, fun a ha => absurd ha List.not_mem_nil⟩

/-- The integers are the arguments, in their order, of one call to the generator
    of the task. -/
inductive Task.Calls : Task → List Int → Generated → Prop
  | highest (count start : Int) :
      Calls .highest [count, start] (Generate.highestValues count start)
  | keys (count : Int) : Calls .keys [count] (Generate.privateKeys count)

/-- The request that integers make is their call. -/
theorem Task.calls_generate {task : Task} {values : List Int} {request : Request}
    (h : task.request? values = some request) : task.Calls values request.generate := by
  unfold Task.request? at h
  split at h
  · obtain rfl := Option.some.inj h
    exact .highest _ _
  · obtain rfl := Option.some.inj h
    exact .keys _
  · contradiction

theorem Generated.log_finish (generated : Generated) (env : Environment) :
    (generated.finish env).log = env.logLines generated.events := by
  unfold finish
  dsimp only
  split <;> rfl

namespace Form

/-! ## Programs with the command -/

/-- The program that has the command. -/
def program (form : Form) : Program := if form.versioned then .single form.task else .suite

/-- The arguments of the program. A subcommand is named in front of its own. -/
def arguments (form : Form) (args : List Argument) : List Argument :=
  if form.versioned then args else Argument.ofString form.task.word :: args

/-- What the help of the command is about. -/
def topic (form : Form) : Topic :=
  if form.versioned then .program (.single form.task) else .subcommand form.task

/-- Run the command. -/
def run (form : Form) (env : Environment) (args : List Argument) : Outcome :=
  form.program.run env (form.arguments args)

theorem ofArgument?_word (task : Task) :
    Subcommand.ofArgument? (Argument.ofString task.word) = some (.task task) := by
  cases task <;> decide

theorem read_program (form : Form) (args : List Argument) :
    form.program.read (form.arguments args) =
      (form.read args).map (Reply.invocation form.topic) := by
  obtain ⟨task, versioned⟩ := form
  cases versioned with
  | true => rfl
  | false =>
    show Program.readSuite (Argument.ofString task.word :: args) = _
    simp only [Program.readSuite, ofArgument?_word]
    rfl

theorem read_program_eq_request_iff {form : Form} {args : List Argument} {request : Request} :
    form.program.read (form.arguments args) = .ok (.request request) ↔
      form.read args = .ok (.request request) := by
  rw [read_program]
  cases form.read args with
  | error e => simp [Except.map]
  | ok reply => cases reply <;> simp [Except.map, Reply.invocation]

/-- What a run of the command ends as. -/
theorem run_eq (form : Form) (env : Environment) (args : List Argument) :
    form.run env args =
      match form.read args with
      | .error e => ⟨.usage, "", [], e.report⟩
      | .ok .help => ⟨.success, env.output.keep form.topic.text, [], ""⟩
      | .ok .version =>
        ⟨.success, env.output.keep (form.program.name ++ " " ++ Program.version ++ "\n"), [], ""⟩
      | .ok (.request request) => request.run env := by
  unfold run Program.run
  rw [read_program]
  cases form.read args with
  | error e => rfl
  | ok reply => cases reply <;> rfl

/-! ## Requests -/

theorem read_eq_request_iff {form : Form} {args : List Argument} {request : Request} :
    form.read args = .ok (.request request) ↔
      ∃ values, form.task.Accepts args values ∧ form.task.request? values = some request := by
  constructor
  · intro h
    obtain ⟨front, values, hfront, hspell, hrequest⟩ := Reading.spell_of_scan h
    obtain rfl := Except.ok.inj hfront
    obtain ⟨hintegers, hdigits⟩ := Argument.spell_false_iff.mp hspell
    have hlength : values.length = form.task.operands.length :=
      Task.request?_isSome_iff.mp (Option.isSome_of_mem hrequest)
    refine ⟨values, ⟨?_, hintegers, hdigits⟩, hrequest⟩
    rw [← hlength, ← List.length_map Argument.integer?, hintegers, List.length_map]
  · rintro ⟨values, ⟨-, hintegers, hdigits⟩, hrequest⟩
    have hsettle : (Reading.start form).settle = .ok [] := rfl
    exact Reading.scan_of_spell (Reading.balanced_start form) hsettle
      (Argument.spell_false_iff.mpr ⟨hintegers, hdigits⟩) hrequest

/-- Accepted integers are run as the request that they make. -/
theorem run_of_accepts (form : Form) {args : List Argument} {values : List Int}
    (h : form.task.Accepts args values) : ∃ request, form.task.request? values = some request ∧
      ∀ env, form.run env args = request.run env := by
  obtain ⟨request, hrequest⟩ := h.exists_request
  refine ⟨request, hrequest, fun env => ?_⟩
  rw [run_eq, read_eq_request_iff.mpr ⟨values, h, hrequest⟩]

/-- Signs and blanks are read behind a separator, where there are no flags. -/
example : read ⟨.highest, false⟩ (["-3", "--", " +7"].map Argument.ofString) =
    .ok (.request (.highest (-3) 7)) := by decide

/-- A run makes a request when its arguments are accepted. Then one call is made to
    the generator of the task, with the integers in their order, and the run ends
    with what it gave. Otherwise nothing is generated and the run ends with a page,
    the version or a usage error. -/
theorem request_iff_accepts (form : Form) (args : List Argument) :
    (∀ request, form.program.read (form.arguments args) = .ok (.request request) ↔
      ∃ values, form.task.Accepts args values ∧ form.task.request? values = some request) ∧
    (∀ values, form.task.Accepts args values →
      ∃ request generated, form.task.request? values = some request ∧
        request.generate = generated ∧ form.task.Calls values generated ∧
        ∀ env, form.run env args = generated.finish env ∧
          (form.run env args).log = env.logLines generated.events) ∧
    ((∀ values, ¬ form.task.Accepts args values) → ∀ env,
      form.run env args = ⟨.success, env.output.keep form.topic.text, [], ""⟩ ∨
      form.run env args =
        ⟨.success, env.output.keep (form.program.name ++ " " ++ Program.version ++ "\n"), [], ""⟩ ∨
      ∃ e : UsageError, form.run env args = ⟨.usage, "", [], e.report⟩) ∧
    ∀ (form' : Form) (args' : List Argument) (values : List Int), form'.task = form.task →
      form.task.Accepts args values → form'.task.Accepts args' values →
      ∀ env, form'.run env args' = form.run env args := by
  refine ⟨?_, ?_, ?_, ?_⟩
  · intro request
    rw [read_program_eq_request_iff, read_eq_request_iff]
  · intro values h
    obtain ⟨request, hrequest, hrun⟩ := run_of_accepts form h
    refine ⟨request, _, hrequest, rfl, Task.calls_generate hrequest, fun env => ⟨hrun env, ?_⟩⟩
    rw [hrun env]
    exact request.generate.log_finish env
  · intro hnot env
    rw [run_eq]
    cases hread : form.read args with
    | error e => exact .inr (.inr ⟨e, rfl⟩)
    | ok reply =>
      cases reply with
      | help => exact .inl rfl
      | version => exact .inr (.inl rfl)
      | request request =>
        obtain ⟨values, h, -⟩ := read_eq_request_iff.mp hread
        exact absurd h (hnot values)
  · intro form' args' values htask h h' env
    obtain ⟨request, hrequest, hrun⟩ := run_of_accepts form h
    obtain ⟨request', hrequest', hrun'⟩ := run_of_accepts form' h'
    rw [htask, hrequest] at hrequest'
    obtain rfl := Option.some.inj hrequest'
    rw [hrun, hrun']

/-! ## Subcommands and programs -/

theorem read_unversioned {task : Task} {args : List Argument}
    (h : ∀ a ∈ Argument.before args, ¬ a.AsksVersion) :
    read ⟨task, false⟩ args = read ⟨task, true⟩ args :=
  Reading.scan_unversioned (r := Reading.start ⟨task, true⟩) fun _ => h

/-- A subcommand and the program of its task end alike, but for their help pages. -/
theorem run_subcommand (task : Task) (env : Environment) (args : List Argument)
    (h : ∀ a ∈ Argument.before args, ¬ a.AsksVersion) :
    let alone := (Program.single task).run env args
    let sub := Program.suite.run env (Argument.ofString task.word :: args)
    sub.status.code = alone.status.code ∧
    sub.stderr = alone.stderr ∧
    (sub.stdout = alone.stdout ∨
      (Program.single task).read args = .ok (.help (.program (.single task))) ∧
      Program.suite.read (Argument.ofString task.word :: args) =
        .ok (.help (.subcommand task))) := by
  intro alone sub
  have halone : alone = run ⟨task, true⟩ env args := rfl
  have hsub : sub = run ⟨task, false⟩ env args := rfl
  rw [halone, hsub, run_eq, run_eq, read_unversioned h]
  cases hread : read ⟨task, true⟩ args with
  | error e => exact ⟨rfl, rfl, .inl rfl⟩
  | ok reply =>
    cases reply with
    | request request => exact ⟨rfl, rfl, .inl rfl⟩
    | version =>
      -- The subcommand reads the same, and has no flag that could show the version.
      rw [← read_unversioned h] at hread
      exact absurd hread (Reading.scan_ne_version (r := Reading.start ⟨task, false⟩) rfl args)
    | help =>
      refine ⟨rfl, rfl, .inr ⟨?_, ?_⟩⟩
      · exact (read_program ⟨task, true⟩ args).trans (by rw [hread]; rfl)
      · exact (read_program ⟨task, false⟩ args).trans (by rw [read_unversioned h, hread]; rfl)

/-- Behind a separator the flag for the version is a value, and a bad one for both. -/
theorem run_subcommand_of_literal_flag :
    let env : Environment := ⟨some "fixturegen=debug", .full, "<time>"⟩
    let args := ["2", "--", "-V"].map Argument.ofString
    let alone := (Program.single .highest).run env args
    let sub := Program.suite.run env (Argument.ofString "highest" :: args)
    (∀ a ∈ Argument.before args, ¬ a.AsksVersion) ∧
    sub.status.code = alone.status.code ∧ sub.stderr = alone.stderr ∧
    sub.stdout = alone.stdout := by
  intro env args alone sub
  have hbefore : ∀ a ∈ Argument.before args, ¬ a.AsksVersion := by decide
  obtain ⟨hcode, hstderr, hstdout | ⟨hhelp, -⟩⟩ := run_subcommand .highest env args hbefore
  · exact ⟨hbefore, hcode, hstderr, hstdout⟩
  · exact absurd hhelp (by decide)

end Form

end Fixture
