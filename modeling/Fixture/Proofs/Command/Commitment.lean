-- SUMMARY: Which outcomes of a command no further argument can change.
import Fixture.Proofs.Command.Form
import Fixture.Proofs.Command.Outcome

/-!
# Commitment

Arguments are read from left to right, and the one that settles the outcome is
the last to be looked at. Only an argument asks for help or the version, and
only an argument is unexpected. The end of the arguments is none of these, so
that such an outcome stays, whatever is appended.
-/

namespace Fixture

/-! ## How a report begins -/

theorem firstParagraph_append {front : List Char} (h : '\n' ∉ front) (rest : List Char) :
    firstParagraph (front ++ rest) = front ++ firstParagraph rest := by
  induction front with
  | nil => rfl
  | cons c front ih =>
    obtain ⟨hc, hfront⟩ := not_or.mp (mt List.mem_cons.mpr h)
    rw [List.cons_append, firstParagraph, ih hfront, List.cons_append]
    intro _ hnewline
    exact absurd hnewline.symm hc

namespace UsageError

open Text (Styled Terminal)

/-- The words of a message in front of the first that is marked are the first
    words of its report. -/
theorem prefix_report {e : UsageError} {text : String} {pieces : Styled}
    (hmessage : e.message = .plain text :: pieces)
    (hplain : text.toList.all (fun c => Terminal.isPlain c && c != '\n') = true) :
    text.toList <+: e.report.toList := by
  have hchars : ∀ c ∈ text.toList, Terminal.isPlain c = true ∧ c ≠ '\n' := by
    simpa using List.all_eq_true.mp hplain
  have hnewline : '\n' ∉ text.toList := fun h => (hchars '\n' h).2 rfl
  have hshown : Terminal.visible {} text.toList = text.toList :=
    Terminal.visible_of_isPlain rfl fun c hc => (hchars c hc).1
  rw [report, String.toList_ofList, hmessage, List.cons_append, Styled.visible, hshown,
    firstParagraph_append hnewline]
  exact List.prefix_append _ _

/-- The report says that something was not expected. -/
def NamesUnexpected (e : UsageError) : Prop := "error: unexpected ".toList <+: e.report.toList

/-- A report with other first words does not say so. -/
theorem not_namesUnexpected {e : UsageError} {text : String} {pieces : Styled}
    (hmessage : e.message = .plain text :: pieces)
    (hplain : text.toList.all (fun c => Terminal.isPlain c && c != '\n') = true)
    (hshort : ¬ text.toList <+: "error: unexpected ".toList)
    (hlong : ¬ "error: unexpected ".toList <+: text.toList) : ¬ e.NamesUnexpected := by
  intro h
  rcases List.prefix_or_prefix_of_prefix (prefix_report hmessage hplain) h with hle | hle
  · exact hshort hle
  · exact hlong hle

end UsageError

/-! ## Reading in parts -/

namespace Reading

/-- Where reading stands behind some arguments, or how it ended among them. -/
def after (r : Reading) : List Argument → Progress
  | [] => .more r
  | a :: rest =>
    match r.step a with
    | .more s => s.after rest
    | .done result => .done result

theorem scan_append (r : Reading) (args more : List Argument) :
    r.scan (args ++ more) = (r.after args).resume more := by
  induction args generalizing r with
  | nil => rfl
  | cons a rest ih =>
    rw [List.cons_append, scan_cons, after]
    cases r.step a with
    | more s => exact ih s
    | done result => rfl

/-! ### The end of the arguments -/

theorem not_namesUnexpected_of_read {operand : Operand} {a : Argument} {e : UsageError}
    (h : operand.read a = .error e) : ¬ e.NamesUnexpected := by
  unfold Operand.read at h
  split at h
  · obtain rfl := Except.error.inj h
    exact UsageError.not_namesUnexpected rfl (by decide) (by decide) (by decide)
  · split at h
    · contradiction
    · obtain rfl := Except.error.inj h
      exact UsageError.not_namesUnexpected rfl (by decide) (by decide) (by decide)

theorem not_namesUnexpected_of_settle {r : Reading} {e : UsageError} (h : r.settle = .error e) :
    ¬ e.NamesUnexpected := by
  unfold settle at h
  split at h
  · contradiction
  · rename_i operand a _
    cases hread : operand.read a with
    | ok v => simp [hread, Except.map] at h
    | error e' =>
      obtain rfl : e' = e := by simpa [hread, Except.map] using h
      exact not_namesUnexpected_of_read hread

/-- The end of the arguments makes a request, or is a bad value or one too few. -/
theorem finish_cases (r : Reading) :
    (∃ request, r.finish = .ok (.request request)) ∨
      ∃ e, r.finish = .error e ∧ ¬ e.NamesUnexpected := by
  unfold finish
  split
  · exact .inr ⟨_, rfl, not_namesUnexpected_of_settle ‹_›⟩
  · split
    · exact .inl ⟨_, rfl⟩
    · exact .inr ⟨_, rfl,
        UsageError.not_namesUnexpected rfl (by decide) (by decide) (by decide)⟩

end Reading

/-! ## Runs -/

/-- The run ended with an error that says that something was not expected. -/
def Outcome.NamesUnexpected (o : Outcome) : Prop :=
  o.status = .usage ∧ "error: unexpected ".toList <+: o.stderr.toList

namespace Form

/-- The run asked for a page or the version, or named what it did not expect. -/
def Commits (form : Form) (env : Environment) (args : List Argument) : Prop :=
  (∃ topic, form.program.read (form.arguments args) = .ok (.help topic)) ∨
  form.program.read (form.arguments args) = .ok .version ∨
  (form.run env args).NamesUnexpected

/-- What commits a run is what was read. A request ends in no usage error. -/
theorem commits_iff {form : Form} {env : Environment} {args : List Argument} :
    form.Commits env args ↔ form.read args = .ok .help ∨ form.read args = .ok .version ∨
      ∃ e, form.read args = .error e ∧ e.NamesUnexpected := by
  unfold Commits Outcome.NamesUnexpected
  rw [read_program, run_eq]
  cases form.read args with
  | error e => simp [Except.map, Outcome.stderr, UsageError.NamesUnexpected]
  | ok reply =>
    cases reply with
    | help => simp [Except.map, Reply.invocation]
    | version => simp [Except.map, Reply.invocation]
    | request request =>
      have hstatus : (request.run env).status ≠ .usage := by
        rw [Request.status_run]
        split <;> decide
      simp [Except.map, Reply.invocation, hstatus]

/-- Such an outcome was settled among the arguments. -/
theorem exists_done_of_commits {form : Form} {env : Environment} {args : List Argument}
    (h : form.Commits env args) : ∃ result, (Reading.start form).after args = .done result := by
  cases hafter : (Reading.start form).after args with
  | done result => exact ⟨result, rfl⟩
  | more s =>
    have hread : form.read args = s.finish := by
      have hscan := (Reading.start form).scan_append args []
      rwa [List.append_nil, hafter] at hscan
    rw [commits_iff, hread] at h
    rcases s.finish_cases with ⟨request, hfinish⟩ | ⟨e, hfinish, hnot⟩
    · simp [hfinish] at h
    · simp [hfinish, hnot] at h

/-- A run that has asked for a page or the version, or has named what it did not
    expect, is the same with more arguments behind. -/
theorem run_append (form : Form) (env : Environment) (args more : List Argument)
    (h : form.Commits env args) : form.run env (args ++ more) = form.run env args := by
  obtain ⟨result, hafter⟩ := exists_done_of_commits h
  have hread (rest : List Argument) : form.read (args ++ rest) = result := by
    unfold read
    rw [Reading.scan_append, hafter]
    rfl
  have hnil := hread []
  rw [List.append_nil] at hnil
  rw [run_eq, run_eq, hread more, hnil]

/-- A flag that is not known is the error. The bad value in front of it was not
    checked yet, and the help behind it is not looked at. -/
theorem run_append_of_unknown_flag :
    let env : Environment := ⟨some "debug", .broken, "<time>"⟩
    let args := ["x", "--bad=1"].map Argument.ofString
    let more := ["--help", "2"].map Argument.ofString
    Commits ⟨.highest, false⟩ env args ∧
    run ⟨.highest, false⟩ env args =
      ⟨.usage, "", [], "error: unexpected argument '--bad' found"⟩ ∧
    run ⟨.highest, false⟩ env (args ++ more) = run ⟨.highest, false⟩ env args := by
  intro env args more
  have hrun : run ⟨.highest, false⟩ env args =
      ⟨.usage, "", [], "error: unexpected argument '--bad' found"⟩ := by decide +kernel
  have hcommits : Commits ⟨.highest, false⟩ env args := by
    refine .inr (.inr ?_)
    rw [hrun]
    exact ⟨rfl, by decide⟩
  exact ⟨hcommits, hrun, run_append ⟨.highest, false⟩ env args more hcommits⟩

end Form

end Fixture
