-- SUMMARY: Changes to the text of a filter that no run notices.
import Fixture.Proofs.Command.Filter
import Fixture.Proofs.Event.Directive
import Fixture.Proofs.Event.Filter
import Fixture.Proofs.Generate
import Mathlib.Logic.Relation

/-!
# Changes to a filter

The text of a filter may be changed and changed again: its clauses put in another
order, a directive written in other words, a directive added or removed that is
about neither target of the log. As long as no two directives had the same
target, the log stays what it was, and with it the run.
-/

namespace Fixture

/-! ## Events of a run -/

namespace Generate

/-- The targets of the log. -/
def targets : List String := [sequenceTarget, keysTarget]

variable {e : Event} {count start : Int}

theorem of_mem_events_highestValues (h : e ∈ (highestValues count start).events) :
    e.level ≠ .error ∧ e.target = sequenceTarget := by
  unfold highestValues at h
  split at h
  · exact absurd h List.not_mem_nil
  · rcases mem_of_mem_events h with rfl | rfl <;> exact ⟨nofun, rfl⟩

theorem of_mem_events_privateKeys (h : e ∈ (privateKeys count).events) :
    e.level ≠ .error ∧ e.target = keysTarget := by
  unfold privateKeys at h
  split at h
  · exact absurd h List.not_mem_nil
  · rcases mem_of_mem_events h with rfl | rfl <;> exact ⟨nofun, rfl⟩

end Generate

theorem Request.of_mem_events {r : Request} {e : Event} (h : e ∈ r.generate.events) :
    e.level ≠ .error ∧ e.target ∈ Generate.targets := by
  cases r with
  | highest count start =>
    obtain ⟨hlevel, htarget⟩ := Generate.of_mem_events_highestValues h
    exact ⟨hlevel, htarget ▸ by decide⟩
  | keys count =>
    obtain ⟨hlevel, htarget⟩ := Generate.of_mem_events_privateKeys h
    exact ⟨hlevel, htarget ▸ by decide⟩

theorem Program.of_mem_events {p : Program} {args : List Argument} {e : Event}
    (h : e ∈ p.events args) : e.level ≠ .error ∧ e.target ∈ Generate.targets := by
  unfold events at h
  split at h
  · exact Request.of_mem_events h
  · exact absurd h List.not_mem_nil

/-! ## Changes -/

namespace Clause

/-- The directive is about neither target of the log. -/
def Irrelevant (c : Clause) : Prop :=
  ∀ target ∈ Generate.targets, ¬ c.directive.target <+: target.toList

instance (c : Clause) : Decidable c.Irrelevant :=
  inferInstanceAs (Decidable (∀ target ∈ Generate.targets, ¬ c.directive.target <+: target.toList))

/-- One change to the clauses of a filter. -/
inductive Change : List Clause → List Clause → Prop
  | permute {clauses clauses' : List Clause} (h : clauses.Perm clauses') : Change clauses clauses'
  /-- The same directive in other words: its threshold in another letter case, say,
      or as its place. -/
  | respell (front back : List Clause) {c c' : Clause} (h : c.directive = c'.directive) :
      Change (front ++ c :: back) (front ++ c' :: back)
  | add (front back : List Clause) {c : Clause} (h : c.Irrelevant) :
      Change (front ++ back) (front ++ c :: back)
  | remove (front back : List Clause) {c : Clause} (h : c.Irrelevant) :
      Change (front ++ c :: back) (front ++ back)

/-- The two have the same directives about the targets of the log. -/
def Agree (clauses clauses' : List Clause) : Prop :=
  ∀ target ∈ Generate.targets, ∀ d : Directive, d.covers target.toList = true →
    (d ∈ directives clauses ↔ d ∈ directives clauses')

variable {clauses clauses' clauses'' : List Clause}

theorem Agree.symm (h : Agree clauses clauses') : Agree clauses' clauses :=
  fun target htarget d hcovers => (h target htarget d hcovers).symm

theorem Agree.trans (h : Agree clauses clauses') (h' : Agree clauses' clauses'') :
    Agree clauses clauses'' :=
  fun target htarget d hcovers =>
    (h target htarget d hcovers).trans (h' target htarget d hcovers)

theorem agree_add (front back : List Clause) {c : Clause} (h : c.Irrelevant) :
    Agree (front ++ back) (front ++ c :: back) := by
  intro target htarget d hcovers
  have hne : d ≠ c.directive := by
    rintro rfl
    exact h target htarget (List.isPrefixOf_iff_prefix.mp hcovers)
  simp only [directives, List.map_append, List.map_cons, List.mem_append, List.mem_cons, hne,
    false_or]

theorem Change.agree (h : Change clauses clauses') : Agree clauses clauses' := by
  cases h with
  | permute h =>
    intro _ _ d _
    exact (h.map directive).mem_iff
  | respell front back h =>
    intro _ _ d _
    simp only [directives, List.map_append, List.map_cons, h]
  | add front back h => exact agree_add front back h
  | remove front back h => exact (agree_add front back h).symm

theorem agree_of_changes (h : Relation.ReflTransGen Change clauses clauses') :
    Agree clauses clauses' := by
  induction h with
  | refl => exact fun _ _ _ _ => Iff.rfl
  | tail _ hstep ih => exact ih.trans hstep.agree

/-! ## Logs under changed filters -/

/-- The filter of no clauses lets errors pass, which is more than no directives
    would do. No other event can tell them apart. -/
theorem passes_filterText (clauses : List Clause) {e : Event} (h : e.level ≠ .error) :
    (Filter.ofText? (some (filterText clauses))).passes e =
      Filter.passes ⟨directives clauses⟩ e := by
  by_cases hnil : clauses = []
  · subst hnil
    have hadmits : (Threshold.upTo .error).admits e.level = false := by
      revert h
      cases e.level <;> decide
    rw [ofText?_filterText_nil]
    exact hadmits
  · rw [ofText?_filterText hnil]

theorem passes_of_agree (hdistinct : ((directives clauses).map (·.target)).Nodup)
    (h : Agree clauses clauses') {e : Event} (hlevel : e.level ≠ .error)
    (htarget : e.target ∈ Generate.targets) :
    (Filter.ofText? (some (filterText clauses'))).passes e =
      (Filter.ofText? (some (filterText clauses))).passes e := by
  rw [passes_filterText clauses' hlevel, passes_filterText clauses hlevel]
  exact Filter.passes_congr hdistinct (h e.target htarget)

end Clause

namespace Program

/-- Where no two directives have the same target, a run is the same under all
    changes of its filter. -/
theorem run_of_changes (p : Program) (env : Environment) (args : List Argument)
    {clauses clauses' : List Clause}
    (hdistinct : ((Clause.directives clauses).map (·.target)).Nodup)
    (hchanges : Relation.ReflTransGen Clause.Change clauses clauses') :
    p.run (env.withFilter (some (Clause.filterText clauses'))) args =
      p.run (env.withFilter (some (Clause.filterText clauses))) args := by
  have hagree := Clause.agree_of_changes hchanges
  have hlog : (env.withFilter (some (Clause.filterText clauses'))).logLines (p.events args) =
      (env.withFilter (some (Clause.filterText clauses))).logLines (p.events args) := by
    unfold Environment.logLines
    refine congrArg (List.map _) (List.filter_congr fun e he => ?_)
    obtain ⟨hlevel, htarget⟩ := of_mem_events he
    exact Clause.passes_of_agree hdistinct hagree hlevel htarget
  rw [run_withFilter, run_withFilter, hlog]

/-- Another order, a threshold as its place, and a directive about neither target.
    The longer of two targets decides in both filters. -/
theorem run_of_changes_of_nested_targets :
    let env : Environment := ⟨none, .captured, "<time>"⟩
    let args := ["-1"].map Argument.ofString
    let before := env.withFilter (some "fixturegen_lib=off,fixturegen_lib::keys=debug")
    let after := env.withFilter (some "hyper=trace,fixturegen_lib::keys=4,fixturegen_lib=off")
    (single .keys).run before args =
      ⟨.success, "", ["<time>  WARN negative count, emitting no keys count=-1\n",
        "<time> DEBUG generated private keys count=-1 emitted=0\n"], ""⟩ ∧
    (single .keys).run after args = (single .keys).run before args := by
  intro env args before after
  let off := Clause.ofText "fixturegen_lib=off" ⟨"fixturegen_lib".toList, .off⟩
    (by decide +kernel) (by decide)
  let keys := Clause.ofText "fixturegen_lib::keys=debug"
    ⟨"fixturegen_lib::keys".toList, .upTo .debug⟩ (by decide +kernel) (by decide)
  let keys' := Clause.ofText "fixturegen_lib::keys=4"
    ⟨"fixturegen_lib::keys".toList, .upTo .debug⟩ (by decide +kernel) (by decide)
  let hyper := Clause.ofText "hyper=trace" ⟨"hyper".toList, .upTo .trace⟩
    (by decide +kernel) (by decide)
  have hswap : Clause.Change [off, keys] [keys, off] := .permute (.swap keys off [])
  have hplace : Clause.Change [keys, off] [keys', off] := .respell [] [off] rfl
  have hadd : Clause.Change [keys', off] [hyper, keys', off] := .add [] [keys', off] (by decide)
  have hchanges := ((Relation.ReflTransGen.single hswap).tail hplace).tail hadd
  have hbefore : Clause.filterText [off, keys] = "fixturegen_lib=off,fixturegen_lib::keys=debug" := by
    decide +kernel
  have hafter : Clause.filterText [hyper, keys', off] =
      "hyper=trace,fixturegen_lib::keys=4,fixturegen_lib=off" := by
    decide +kernel
  have hrun := run_of_changes (single .keys) env args (by decide) hchanges
  rw [hbefore, hafter] at hrun
  exact ⟨by decide +kernel, hrun⟩

end Program

end Fixture
