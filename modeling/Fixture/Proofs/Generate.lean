-- SUMMARY: The lines of the generators, piece by piece.
import Fixture.Generate
import Fixture.Proofs.Line
import Fixture.Proofs.Numeral.Reader
import Fixture.Proofs.Run.ClosedForm

/-!
# Generated lines

A generated line, cut at its commas, gives the values of its run one by one:
there is one piece for each index up to the count, and the piece is the numeral
of the value at its index.
-/

namespace Fixture.Generate

open Line Numeral

theorem events_eq_append (count : Int) (warning last : Event) :
    events count warning last = (if count < 0 then [warning] else []) ++ [last] := by
  unfold events
  split <;> rfl

theorem mem_of_mem_events {count : Int} {warning last e : Event}
    (h : e ∈ events count warning last) : e = warning ∨ e = last := by
  rw [events_eq_append, List.mem_append, List.mem_singleton] at h
  refine h.imp_left fun hfront => ?_
  split at hfront
  · exact List.mem_singleton.mp hfront
  · exact absurd hfront List.not_mem_nil

theorem highestValues_of_ne_zero {count : Int} (start : Int) (h : count ≠ 0) :
    (highestValues count start).line =
      .ok (join ((List.range (count + 1).toNat).map fun (k : Nat) => start + (k : Int))) := by
  unfold highestValues
  rw [if_neg h, Ascending.values_ofCount]

theorem privateKeys_of_ne_zero {count : Int} (h : count ≠ 0) :
    (privateKeys count).line =
      .ok (join ((List.range (count + 1).toNat).map fun i => hex (KeyRun.key i))) := by
  unfold privateKeys
  rw [if_neg h, KeyRun.values_ofCount, List.map_map]
  rfl

theorem range_of_neg {count : Int} (hneg : count < 0) : List.range (count + 1).toNat = [] := by
  rw [Int.toNat_of_nonpos (by omega), List.range_zero]

/-- A positive count gives values. -/
theorem map_range_ne_nil {α : Type} {count : Int} (hpos : 0 < count) (f : Nat → α) :
    (List.range (count + 1).toNat).map f ≠ [] := by
  have : (count + 1).toNat ≠ 0 := by omega
  simpa using this

theorem comma_not_mem_map_range {α : Type} [Display α] {f : Nat → α}
    (hcomma : ∀ k, ',' ∉ (display (f k)).toList) (n : Nat) :
    ∀ v ∈ (List.range n).map f, ',' ∉ (display v).toList := by
  intro v hv
  obtain ⟨k, -, rfl⟩ := List.mem_map.mp hv
  exact hcomma k

theorem pieces_join_range {α : Type} [Display α] {count : Int} (hpos : 0 < count) {f : Nat → α}
    (hcomma : ∀ k, ',' ∉ (display (f k)).toList) :
    pieces (join ((List.range (count + 1).toNat).map f)) =
      (List.range (count + 1).toNat).map fun k => display (f k) := by
  rw [pieces_join (map_range_ne_nil hpos f) (comma_not_mem_map_range hcomma _), List.map_map]
  rfl

theorem getElem?_map_range {α : Type} {count : Int} {k : Nat} (hk : (k : Int) ≤ count)
    (f : Nat → α) : ((List.range (count + 1).toNat).map f)[k]? = some (f k) := by
  have hlt : k < (count + 1).toNat := by omega
  rw [List.getElem?_map, List.getElem?_range hlt, Option.map_some]

/-- The integers of a run from the `k`-th on are those of the run that starts there. -/
theorem map_range_eq_append {count : Int} {k : Nat} (hk : (k : Int) < count) (start : Int) :
    (List.range (count + 1).toNat).map (fun (i : Nat) => start + (i : Int)) =
      (List.range k).map (fun (i : Nat) => start + (i : Int)) ++
        (List.range (count - k + 1).toNat).map fun (i : Nat) => start + k + (i : Int) := by
  have hsplit : (count + 1).toNat = k + (count - k + 1).toNat := by omega
  rw [hsplit, List.range_add, List.map_append, List.map_map]
  congr 1
  apply List.map_congr_left
  intro i _
  simp [Int.add_assoc]

/-- A line is its first `k` pieces, and the line that starts at the next. -/
theorem highestValues_from_piece {count : Int} {k : Nat} (hk : (k : Int) < count) (start : Int) :
    ∃ line rest, (highestValues count start).line = .ok line ∧
      (highestValues (count - k) (start + k)).line = .ok rest ∧
      (pieces line)[k]? = some (decimal (start + k)) ∧
      line = String.join (((pieces line).take k).map (· ++ ",")) ++ rest := by
  have hpos : 0 < count := by omega
  have hpieces := pieces_join_range hpos (f := fun (i : Nat) => start + (i : Int))
    fun i => comma_not_mem_decimal _
  have hrest : (List.range (count - k + 1).toNat).map
      (fun (i : Nat) => start + (k : Int) + (i : Int)) ≠ [] := by
    have : (count - k + 1).toNat ≠ 0 := by omega
    simpa using this
  refine ⟨_, _, highestValues_of_ne_zero start (by omega),
    highestValues_of_ne_zero (start + k) (by omega), ?_, ?_⟩
  · rw [hpieces]
    exact getElem?_map_range (by omega) _
  · rw [hpieces, map_range_eq_append hk, Line.join_append hrest, ← List.map_take, List.take_range,
      Nat.min_eq_left (by omega), List.map_map, List.map_map]
    rfl

theorem length_hex_key (i : Nat) : 64 ≤ (hex (KeyRun.key i)).length := by
  have hbase : 16 ^ 63 ≤ baseKey := by decide
  have hkey : 16 ^ 63 ≤ KeyRun.key i := Nat.le_trans hbase (Nat.le_add_right _ _)
  have hlong : ¬ (hex (KeyRun.key i)).length ≤ 63 := by
    rw [length_hex_le_iff (by omega)]
    exact Nat.not_lt.mpr hkey
  omega

theorem length_hex_key_eq_iff (i : Nat) :
    (hex (KeyRun.key i)).length = 64 ↔ KeyRun.key i < 2 ^ 256 := by
  have hpow : (2 : Nat) ^ 256 = 16 ^ 64 := by decide
  have hlong := length_hex_key i
  rw [hpow, ← length_hex_le_iff (by omega)]
  omega

/-- The keys grow with their indices, and so do the values of their texts. -/
theorem pairwise_value_hex_key (n : Nat) :
    ((List.range n).map fun i => hex (KeyRun.key i)).Pairwise fun s t =>
      value 16 s.toList < value 16 t.toList := by
  rw [List.pairwise_map]
  refine List.pairwise_lt_range.imp fun {i j} hlt => ?_
  rw [(isHex_hex _).value_eq, (isHex_hex _).value_eq]
  exact KeyRun.key_strictMono hlt

theorem highestValues_line (count start : Int) :
    (0 < count → ∃ line, (highestValues count start).line = .ok line ∧
      ((pieces line).length : Int) = count + 1 ∧
      ∀ k : Nat, (k : Int) ≤ count → ∃ piece, (pieces line)[k]? = some piece ∧
        IsDecimal (start + k) piece ∧ readInt piece = .ok (start + k)) ∧
    (count < 0 → (highestValues count start).line = .ok "") ∧
    ∀ e, (highestValues count start).line = .error e ↔
      count = 0 ∧ e = .missingCount "Highest int" := by
  refine ⟨?_, ?_, ?_⟩
  · intro hpos
    have hpieces := pieces_join_range hpos (f := fun (k : Nat) => start + (k : Int))
      fun k => comma_not_mem_decimal _
    refine ⟨_, highestValues_of_ne_zero start (by omega), ?_, ?_⟩
    · rw [hpieces, List.length_map, List.length_range]
      omega
    · intro k hk
      refine ⟨_, ?_, isDecimal_decimal (start + k), readInt_decimal (start + k)⟩
      rw [hpieces]
      exact getElem?_map_range hk _
  · intro hneg
    rw [highestValues_of_ne_zero start (by omega), range_of_neg hneg, List.map_nil, join_nil]
  · intro e
    by_cases hzero : count = 0
    · simp [highestValues, hzero, eq_comm]
    · simp [highestValues_of_ne_zero start hzero, hzero]

example : (highestValues 2 (-1)).line = .ok "-1,0,1" := by decide

theorem privateKeys_line (count : Int) :
    (0 < count → ∃ line, (privateKeys count).line = .ok line ∧
      ((pieces line).length : Int) = count + 1 ∧
      (∀ k : Nat, (k : Int) ≤ count → ∃ piece, (pieces line)[k]? = some piece ∧
        IsHex (baseKey + k * (k + 1) / 2) piece ∧ 64 ≤ piece.length ∧
        (piece.length = 64 ↔ baseKey + k * (k + 1) / 2 < 2 ^ 256)) ∧
      ((pieces line).map fun piece => value 16 piece.toList).Pairwise (· < ·) ∧
      (pieces line).Nodup) ∧
    (count < 0 → (privateKeys count).line = .ok "") ∧
    ∀ e, (privateKeys count).line = .error e ↔
      count = 0 ∧ e = .missingCount "Number of private keys" := by
  refine ⟨?_, ?_, ?_⟩
  · intro hpos
    have hpieces := pieces_join_range hpos (f := fun i => hex (KeyRun.key i))
      fun i => comma_not_mem_hex _
    refine ⟨_, privateKeys_of_ne_zero (by omega), ?_, ?_, ?_, ?_⟩
    · rw [hpieces, List.length_map, List.length_range]
      omega
    · intro k hk
      refine ⟨_, ?_, isHex_hex (KeyRun.key k), length_hex_key k, length_hex_key_eq_iff k⟩
      rw [hpieces]
      exact getElem?_map_range hk _
    · rw [hpieces, List.pairwise_map]
      exact pairwise_value_hex_key _
    · rw [hpieces]
      refine (pairwise_value_hex_key _).imp fun {s t} hlt heq => ?_
      exact absurd hlt (heq ▸ Nat.lt_irrefl _)
  · intro hneg
    rw [privateKeys_of_ne_zero (by omega), range_of_neg hneg, List.map_nil, join_nil]
  · intro e
    by_cases hzero : count = 0
    · simp [privateKeys, hzero, eq_comm]
    · simp [privateKeys_of_ne_zero hzero, hzero]

end Fixture.Generate
