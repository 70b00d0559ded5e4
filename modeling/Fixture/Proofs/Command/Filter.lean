-- SUMMARY: The log filter decides which log lines stand on standard error, and nothing else.
import Fixture.Proofs.Command.Outcome

/-!
# Runs under two filters

The filter is read before the arguments, and the events of a request are emitted
before its line is written. Still it decides about the log alone. Two runs that
differ in their filters have the same status, output and report, and every log
is what is left of the log that lets everything pass.
-/

namespace Fixture

/-! ## Filters that let everything pass -/

namespace Filter

theorem ofText?_trace : ofText? (some "trace") = ⟨[⟨[], .upTo .trace⟩]⟩ := by
  decide

theorem passes_trace (e : Event) : (ofText? (some "trace")).passes e = true := by
  have hadmits : (Threshold.upTo .trace).admits e.level = true := by
    cases e.level <;> rfl
  rw [ofText?_trace]
  exact hadmits

end Filter

/-! ## Environments -/

namespace Environment

/-- The environment with another log filter. -/
def withFilter (env : Environment) (filter : Option String) : Environment := { env with filter }

theorem logLines_trace (env : Environment) (events : List Event) :
    (env.withFilter (some "trace")).logLines events = events.map (·.logLine env.time) := by
  have hall : events.filter (Filter.ofText? (some "trace")).passes = events :=
    List.filter_eq_self.mpr fun e _ => Filter.passes_trace e
  simp only [logLines, withFilter, hall]

/-- A filter takes lines away. The others stay as they are and where they are. -/
theorem logLines_sublist (env : Environment) (filter : Option String) (events : List Event) :
    ((env.withFilter filter).logLines events).Sublist
      ((env.withFilter (some "trace")).logLines events) := by
  rw [logLines_trace]
  exact List.filter_sublist.map _

end Environment

/-! ## Runs -/

/-- What was generated ends a run in the same way but for its log. -/
theorem Generated.finish_withFilter (generated : Generated) (env : Environment)
    (filter : Option String) :
    generated.finish (env.withFilter filter) =
      { generated.finish env with log := (env.withFilter filter).logLines generated.events } := by
  have houtput : (env.withFilter filter).output = env.output := rfl
  simp only [finish, houtput]
  split <;> rfl

namespace Program

/-- The events of the request that a command line makes, if it makes one. -/
def events (p : Program) (args : List Argument) : List Event :=
  match p.read args with
  | .ok (.request r) => r.generate.events
  | _ => []

/-- A run under a filter is the same run with another log. -/
theorem run_withFilter (p : Program) (env : Environment) (args : List Argument)
    (filter : Option String) :
    p.run (env.withFilter filter) args =
      { p.run env args with log := (env.withFilter filter).logLines (p.events args) } := by
  unfold run events
  cases p.read args with
  | error e => rfl
  | ok invocation =>
    cases invocation with
    | help topic => rfl
    | version => rfl
    | request r => exact r.generate.finish_withFilter env filter

/-- Only a request has events, and its run does not end as a usage error. -/
theorem events_eq_nil {p : Program} {env : Environment} {args : List Argument}
    (h : (p.run env args).status.code = 2 ∨ (∃ topic, p.read args = .ok (.help topic)) ∨
      p.read args = .ok .version) : p.events args = [] := by
  unfold events
  rcases h with hcode | ⟨topic, hread⟩ | hread
  · split
    · rename_i r hread
      rw [run_of_request hread, Request.status_run] at hcode
      split at hcode <;> contradiction
    · rfl
  · rw [hread]
  · rw [hread]

/-- Two runs that differ in their filters: nothing differs but the log, and each
    log is in order among the lines of the log that lets everything pass. -/
theorem run_two_filters (p : Program) (env : Environment) (args : List Argument)
    (f g : Option String) :
    let o := p.run (env.withFilter f) args
    let o' := p.run (env.withFilter g) args
    let full := p.run (env.withFilter (some "trace")) args
    o.status.code = o'.status.code ∧ o.stdout = o'.stdout ∧
    (o.status.code = 2 ∨ (∃ topic, p.read args = .ok (.help topic)) ∨ p.read args = .ok .version →
      o.stderr = o'.stderr) ∧
    (∃ rest, o.stderr = String.join o.log ++ rest ∧ o'.stderr = String.join o'.log ++ rest) ∧
    o.log.Sublist full.log ∧
    full.log = (p.events args).map (·.logLine env.time) := by
  intro o o' full
  have ho : o = { p.run env args with log := (env.withFilter f).logLines (p.events args) } :=
    p.run_withFilter env args f
  have ho' : o' = { p.run env args with log := (env.withFilter g).logLines (p.events args) } :=
    p.run_withFilter env args g
  have hfull : full.log = (env.withFilter (some "trace")).logLines (p.events args) :=
    congrArg Outcome.log (p.run_withFilter env args (some "trace"))
  refine ⟨by rw [ho, ho'], by rw [ho, ho'], ?_, ⟨o.report, rfl, ?_⟩, ?_, ?_⟩
  · intro h
    rw [ho, ho', events_eq_nil h]
    rfl
  · rw [ho, ho']
    rfl
  · rw [ho, hfull]
    exact env.logLines_sublist f (p.events args)
  · rw [hfull, Environment.logLines_trace]

end Program

end Fixture
