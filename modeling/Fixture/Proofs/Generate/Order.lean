-- SUMMARY: When one generated line begins another, and when two of them are the same.
import Fixture.Proofs.Generate

/-!
# The order of generated lines

A larger count only adds to a line, behind a comma. A line tells its pieces, and
these tell what it was generated from, so that no line begins another, up to a
comma, but for that reason.
-/

namespace Fixture.Generate

open Line Numeral

/-! ## Lists of values by index -/

section
variable {α : Type} {f g : Nat → α} {m n : Nat}

theorem map_range_prefix_iff :
    (List.range m).map f <+: (List.range n).map g ↔ m ≤ n ∧ ∀ k < m, f k = g k := by
  rw [List.prefix_iff_eq_take, List.length_map, List.length_range, ← List.map_take,
    List.take_range]
  constructor
  · intro h
    have hlength := congrArg List.length h
    simp only [List.length_map, List.length_range] at hlength
    rw [← hlength] at h
    refine ⟨by omega, fun k hk => ?_⟩
    exact List.map_inj_left.mp h k (List.mem_range.mpr hk)
  · rintro ⟨hle, hvalues⟩
    rw [Nat.min_eq_left hle]
    exact List.map_inj_left.mpr fun k hk => hvalues k (List.mem_range.mp hk)

theorem map_range_eq_iff :
    (List.range m).map f = (List.range n).map g ↔ m = n ∧ ∀ k < m, f k = g k := by
  constructor
  · intro h
    have hlength := congrArg List.length h
    simp only [List.length_map, List.length_range] at hlength
    have hbegins : (List.range m).map f <+: (List.range n).map g :=
      ⟨[], by rw [h, List.append_nil]⟩
    exact ⟨hlength, (map_range_prefix_iff.mp hbegins).2⟩
  · rintro ⟨rfl, hvalues⟩
    exact List.map_inj_left.mpr fun k hk => hvalues k (List.mem_range.mp hk)

end

/-! ## Lines of values by index -/

section
variable {α : Type} [Display α] {c₁ c₂ : Int} (h₁ : 0 < c₁) (h₂ : 0 < c₂) {f g : Nat → α}
  (hf : ∀ k, ',' ∉ (display (f k)).toList) (hg : ∀ k, ',' ∉ (display (g k)).toList)
include h₁ h₂ hf hg

theorem join_range_eq_iff :
    join ((List.range (c₁ + 1).toNat).map f) = join ((List.range (c₂ + 1).toNat).map g) ↔
      c₁ = c₂ ∧ ∀ k < (c₁ + 1).toNat, display (f k) = display (g k) := by
  have hcount : (c₁ + 1).toNat = (c₂ + 1).toNat ↔ c₁ = c₂ := by omega
  rw [join_eq_join_iff (comma_not_mem_map_range hf _) (comma_not_mem_map_range hg _)
    (map_range_ne_nil h₁ f) (map_range_ne_nil h₂ g), List.map_map, List.map_map, map_range_eq_iff,
    hcount]
  rfl

theorem join_range_prefix_iff :
    (join ((List.range (c₁ + 1).toNat).map f) ++ ",").toList <+:
        (join ((List.range (c₂ + 1).toNat).map g)).toList ↔
      c₁ < c₂ ∧ ∀ k < (c₁ + 1).toNat, display (f k) = display (g k) := by
  rw [join_comma_prefix_iff (comma_not_mem_map_range hf _) (comma_not_mem_map_range hg _)
    (map_range_ne_nil h₁ f) (map_range_ne_nil h₂ g), List.map_map, List.map_map,
    map_range_prefix_iff, List.length_map, List.length_map, List.length_range, List.length_range]
  constructor
  · rintro ⟨⟨-, hvalues⟩, hlt⟩
    exact ⟨by omega, hvalues⟩
  · rintro ⟨hlt, hvalues⟩
    exact ⟨⟨by omega, hvalues⟩, by omega⟩

end

/-! ## Generated lines -/

/-- Two runs of integers agree at all indices when they agree at the first. -/
theorem forall_decimal_eq_iff {n : Nat} (hn : 0 < n) {s₁ s₂ : Int} :
    (∀ k < n, decimal (s₁ + (k : Int)) = decimal (s₂ + (k : Int))) ↔ s₁ = s₂ := by
  constructor
  · intro h
    have hfirst := decimal_injective (h 0 hn)
    omega
  · rintro rfl k -
    rfl

/-- A line goes on behind a comma in the lines of larger counts, and in no
    others. Lines are equal when what they were generated from is. -/
theorem lines_order {c₁ c₂ : Int} (h₁ : 0 < c₁) (h₂ : 0 < c₂) :
    (∃ line other, (privateKeys c₁).line = .ok line ∧ (privateKeys c₂).line = .ok other ∧
      ((line ++ ",").toList <+: other.toList ↔ c₁ < c₂) ∧ (line = other ↔ c₁ = c₂)) ∧
    ∀ s₁ s₂ : Int, ∃ line other,
      (highestValues c₁ s₁).line = .ok line ∧ (highestValues c₂ s₂).line = .ok other ∧
      ((line ++ ",").toList <+: other.toList ↔ s₁ = s₂ ∧ c₁ < c₂) ∧
      (line = other ↔ c₁ = c₂ ∧ s₁ = s₂) := by
  constructor
  · have hcomma (k : Nat) : ',' ∉ (display (hex (KeyRun.key k))).toList := comma_not_mem_hex _
    refine ⟨_, _, privateKeys_of_ne_zero (by omega), privateKeys_of_ne_zero (by omega), ?_, ?_⟩
    · rw [join_range_prefix_iff h₁ h₂ hcomma hcomma]
      exact and_iff_left fun k _ => rfl
    · rw [join_range_eq_iff h₁ h₂ hcomma hcomma]
      exact and_iff_left fun k _ => rfl
  · intro s₁ s₂
    have hcomma (s : Int) (k : Nat) : ',' ∉ (display (s + (k : Int))).toList :=
      comma_not_mem_decimal _
    have hstart : (∀ k < (c₁ + 1).toNat, display (s₁ + (k : Int)) = display (s₂ + (k : Int))) ↔
        s₁ = s₂ := forall_decimal_eq_iff (by omega)
    refine ⟨_, _, highestValues_of_ne_zero s₁ (by omega), highestValues_of_ne_zero s₂ (by omega),
      ?_, ?_⟩
    · rw [join_range_prefix_iff h₁ h₂ (hcomma s₁) (hcomma s₂), hstart, and_comm]
    · rw [join_range_eq_iff h₁ h₂ (hcomma s₁) (hcomma s₂), hstart]

/-- A start of `-10` has the text of `-1` in front, but its lines do not go on
    from those of `-1`. -/
theorem lines_order_of_minus_one :
    (0 : Int) < 1 ∧ (0 : Int) < 2 ∧
      (highestValues 1 (-1)).line = .ok "-1,0" ∧
      (highestValues 2 (-1)).line = .ok "-1,0,1" ∧
      (highestValues 2 (-10)).line = .ok "-10,-9,-8" ∧
      ("-1,0" ++ ",").toList <+: "-1,0,1".toList ∧
      ¬ ("-1,0" ++ ",").toList <+: "-10,-9,-8".toList := by
  have h₁ : (0 : Int) < 1 := by decide
  have h₂ : (0 : Int) < 2 := by decide
  have hline : (highestValues 1 (-1)).line = .ok "-1,0" := by decide
  have hlonger : (highestValues 2 (-1)).line = .ok "-1,0,1" := by decide
  have hother : (highestValues 2 (-10)).line = .ok "-10,-9,-8" := by decide
  refine ⟨h₁, h₂, hline, hlonger, hother, ?_, ?_⟩
  · obtain ⟨line, other, hl, ho, hbegins, -⟩ := (lines_order h₁ h₂).2 (-1) (-1)
    obtain rfl := Except.ok.inj (hl.symm.trans hline)
    obtain rfl := Except.ok.inj (ho.symm.trans hlonger)
    exact hbegins.mpr ⟨rfl, by decide⟩
  · obtain ⟨line, other, hl, ho, hbegins, -⟩ := (lines_order h₁ h₂).2 (-1) (-10)
    obtain rfl := Except.ok.inj (hl.symm.trans hline)
    obtain rfl := Except.ok.inj (ho.symm.trans hother)
    exact fun h => absurd (hbegins.mp h).1 (by decide)

end Fixture.Generate
