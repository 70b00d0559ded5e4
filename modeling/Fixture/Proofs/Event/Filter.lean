-- SUMMARY: The directive that decides about a target does not depend on the order of a filter.
import Fixture.Event.Filter
import Mathlib.Data.List.Nodup

/-!
# Decisive directives

Of the directives about a target the one with the longest target of its own
decides. Two of the same length have the same target. So where all targets are
distinct there is only one such directive, wherever it stands, and directives
about other targets make no difference.
-/

namespace Fixture

/-! ## The longest target -/

/-- `d` has the longest target among the directives about `target`. -/
structure Directive.Decides (d : Directive) (directives : List Directive) (target : List Char) :
    Prop where
  mem : d ∈ directives
  covers : d.covers target = true
  longest : ∀ e ∈ directives, e.covers target = true → e.target.length ≤ d.target.length

namespace Directive

variable {d e : Directive} {directives : List Directive} {target : List Char}

theorem target_eq_of_covers (hd : d.covers target = true) (he : e.covers target = true)
    (hlength : d.target.length = e.target.length) : d.target = e.target :=
  (List.prefix_of_prefix_length_le (List.isPrefixOf_iff_prefix.mp hd)
    (List.isPrefixOf_iff_prefix.mp he) (Nat.le_of_eq hlength)).eq_of_length hlength

theorem Decides.unique (hdistinct : (directives.map (·.target)).Nodup)
    (hd : d.Decides directives target) (he : e.Decides directives target) : d = e := by
  have hlength : d.target.length = e.target.length :=
    Nat.le_antisymm (he.longest d hd.mem hd.covers) (hd.longest e he.mem he.covers)
  exact List.inj_on_of_nodup_map hdistinct hd.mem he.mem
    (target_eq_of_covers hd.covers he.covers hlength)

end Directive

namespace Filter

/-! ## Finding it -/

theorem longer_some_cases (e d : Directive) :
    (longer (some e) d = e ∧ d.target.length ≤ e.target.length) ∨
      (longer (some e) d = d ∧ e.target.length ≤ d.target.length) := by
  unfold longer
  by_cases hlt : d.target.length < e.target.length
  · exact .inl ⟨if_pos hlt, Nat.le_of_lt hlt⟩
  · exact .inr ⟨if_neg hlt, Nat.not_lt.mp hlt⟩

/-- The search ends with one of the directives, and none of them is longer. -/
theorem longest_of_foldl {directives : List Directive} {e d : Directive}
    (h : directives.foldl (fun found a => some (longer found a)) (some e) = some d) :
    d ∈ e :: directives ∧ ∀ a ∈ e :: directives, a.target.length ≤ d.target.length := by
  induction directives generalizing e with
  | nil =>
    obtain rfl := Option.some.inj h
    refine ⟨List.mem_cons_self, fun a ha => ?_⟩
    obtain rfl := List.mem_singleton.mp ha
    exact Nat.le_refl _
  | cons a directives ih =>
    obtain ⟨hmem, hlongest⟩ := ih h
    obtain ⟨hkept, hrest⟩ := List.forall_mem_cons.mp hlongest
    simp only [List.forall_mem_cons]
    rcases longer_some_cases e a with ⟨heq, hle⟩ | ⟨heq, hle⟩
    · rw [heq] at hmem hkept
      refine ⟨?_, hkept, Nat.le_trans hle hkept, hrest⟩
      rcases List.mem_cons.mp hmem with rfl | hmem
      · exact List.mem_cons_self
      · exact List.mem_cons_of_mem e (List.mem_cons_of_mem a hmem)
    · rw [heq] at hmem hkept
      exact ⟨List.mem_cons_of_mem e hmem, Nat.le_trans hle hkept, hkept, hrest⟩

theorem foldl_longer_ne_none (directives : List Directive) (e : Directive) :
    directives.foldl (fun found a => some (longer found a)) (some e) ≠ none := by
  induction directives generalizing e with
  | nil => exact nofun
  | cons a directives ih => exact ih (longer (some e) a)

theorem decides_of_decisive? {f : Filter} {target : List Char} {d : Directive}
    (h : f.decisive? target = some d) : d.Decides f.directives target := by
  unfold decisive? at h
  cases habout : f.directives.filter (·.covers target) with
  | nil =>
    rw [habout] at h
    contradiction
  | cons e rest =>
    rw [habout] at h
    obtain ⟨hmem, hlongest⟩ := longest_of_foldl (e := e) h
    rw [← habout] at hmem hlongest
    obtain ⟨hmem, hcovers⟩ := List.mem_filter.mp hmem
    refine ⟨hmem, hcovers, fun a ha hcovers' => ?_⟩
    exact hlongest a (List.mem_filter.mpr ⟨ha, hcovers'⟩)

theorem decisive?_eq_none_iff {f : Filter} {target : List Char} :
    f.decisive? target = none ↔ ∀ d ∈ f.directives, ¬ d.covers target = true := by
  rw [← List.filter_eq_nil_iff]
  unfold decisive?
  cases f.directives.filter (·.covers target) with
  | nil => exact iff_of_true rfl rfl
  | cons d rest => exact iff_of_false (foldl_longer_ne_none rest d) (List.cons_ne_nil d rest)

/-! ## Filters that agree -/

/-- Only the directives about a target matter, and not their order. -/
theorem decisive?_congr {f g : Filter} {target : List Char}
    (hdistinct : (f.directives.map (·.target)).Nodup)
    (hsame : ∀ d : Directive, d.covers target = true → (d ∈ f.directives ↔ d ∈ g.directives)) :
    g.decisive? target = f.decisive? target := by
  cases hg : g.decisive? target with
  | none =>
    have hnone : ∀ d ∈ f.directives, ¬ d.covers target = true := fun d hd hcovers =>
      decisive?_eq_none_iff.mp hg d ((hsame d hcovers).mp hd) hcovers
    exact (decisive?_eq_none_iff.mpr hnone).symm
  | some d =>
    obtain ⟨hmem, hcovers, hlongest⟩ := decides_of_decisive? hg
    have hd : d.Decides f.directives target := by
      refine ⟨(hsame d hcovers).mpr hmem, hcovers, fun e he hcovers' => ?_⟩
      exact hlongest e ((hsame e hcovers').mp he) hcovers'
    cases hf : f.decisive? target with
    | none => exact absurd hcovers (decisive?_eq_none_iff.mp hf d hd.mem)
    | some e => rw [hd.unique hdistinct (decides_of_decisive? hf)]

theorem passes_congr {f g : Filter} {e : Event} (hdistinct : (f.directives.map (·.target)).Nodup)
    (hsame : ∀ d : Directive, d.covers e.target.toList = true →
      (d ∈ f.directives ↔ d ∈ g.directives)) : g.passes e = f.passes e := by
  unfold passes
  rw [decisive?_congr hdistinct hsame]

end Filter

end Fixture
