-- SUMMARY: Written numerals are canonical and have the value they were written for.
import Fixture.Numeral
import Mathlib.Data.List.Basic
import Mathlib.Tactic.IntervalCases

/-!
# Canonical numerals

A numeral is canonical when it has no leading zero. `hex` and `decimal` write
canonical numerals, whose value is the number they were given.
-/

namespace Fixture.Numeral

/-- The digits of a base up to sixteen, in the order of their values. -/
def alphabet (base : Nat) : List Char := "0123456789abcdef".toList.take base

/-- Digits that make up a numeral. A zero comes first in the numeral of zero only. -/
structure IsNumeral (base : Nat) (digits : List Char) : Prop where
  ne_nil : digits ≠ []
  mem_alphabet : ∀ c ∈ digits, c ∈ alphabet base
  eq_of_head_zero : digits.head? = some '0' → digits = ['0']

/-- `text` is the lowercase hexadecimal numeral of `n`. -/
structure IsHex (n : Nat) (text : String) : Prop where
  numeral : IsNumeral 16 text.toList
  value_eq : value 16 text.toList = n

/-- `text` is the decimal numeral of `n`, with a minus in front of a negative
    number and no other sign. -/
def IsDecimal (n : Int) (text : String) : Prop :=
  ∃ digits, text.toList = (if n < 0 then '-' :: digits else digits) ∧
    IsNumeral 10 digits ∧ value 10 digits = n.natAbs

/-! ## Single digits -/

theorem digitChar_mem_alphabet {base d : Nat} (hbase : base ≤ 16) (hd : d < base) :
    d.digitChar ∈ alphabet base := by
  have hlen : d < (alphabet base).length := by simp [alphabet]; omega
  have hget : (alphabet base)[d] = d.digitChar := by
    have : d < 16 := by omega
    simp only [alphabet, List.getElem_take]
    interval_cases d <;> rfl
  exact hget ▸ List.getElem_mem hlen

theorem digitValue_digitChar {d : Nat} (hd : d < 16) : digitValue d.digitChar = d := by
  interval_cases d <;> rfl

theorem ne_comma_of_mem_alphabet {base : Nat} {c : Char} (h : c ∈ alphabet base) : c ≠ ',' := by
  have hall : (alphabet 16).all (· != ',') = true := by decide
  simpa using List.all_eq_true.mp hall c (List.mem_of_mem_take h)

theorem isDigit_of_mem_alphabet {c : Char} (h : c ∈ alphabet 10) : c.isDigit = true := by
  have hall : (alphabet 10).all Char.isDigit = true := by decide
  exact List.all_eq_true.mp hall c h

theorem mem_alphabet_of_isDigit {c : Char} (h : c.isDigit = true) : c ∈ alphabet 10 := by
  obtain ⟨hlow, hhigh⟩ : 48 ≤ c.toNat ∧ c.toNat ≤ 57 := by
    simpa [Char.isDigit, UInt32.le_iff_toNat_le] using h
  rw [← Char.ofNat_toNat c]
  generalize c.toNat = n at hlow hhigh
  interval_cases n <;> decide

/-! ## Digits of a number -/

section
variable {base : Nat} (hlow : 1 < base) (hhigh : base ≤ 16)
include hlow hhigh

theorem value_toDigits (n : Nat) : value base (Nat.toDigits base n) = n := by
  induction n using Nat.strong_induction_on with
  | _ n ih =>
    rw [Nat.toDigits_eq_if hlow]
    split
    · simp [value, digitValue_digitChar (d := n) (by omega)]
    · have hlast : n % base < base := Nat.mod_lt n (by omega)
      rw [value_append_singleton, digitValue_digitChar (by omega),
        ih (n / base) (Nat.div_lt_self (by omega) hlow)]
      exact Nat.div_add_mod' n base

theorem mem_alphabet_of_mem_toDigits {n : Nat} {c : Char} (h : c ∈ Nat.toDigits base n) :
    c ∈ alphabet base := by
  induction n using Nat.strong_induction_on with
  | _ n ih =>
    rw [Nat.toDigits_eq_if hlow] at h
    split at h
    · rw [List.mem_singleton.mp h]
      exact digitChar_mem_alphabet hhigh ‹_›
    · rcases List.mem_append.mp h with hfront | hlast
      · exact ih (n / base) (Nat.div_lt_self (by omega) hlow) hfront
      · rw [List.mem_singleton.mp hlast]
        exact digitChar_mem_alphabet hhigh (Nat.mod_lt n (by omega))

theorem eq_zero_of_head_toDigits {n : Nat} (h : (Nat.toDigits base n).head? = some '0') : n = 0 := by
  induction n using Nat.strong_induction_on with
  | _ n ih =>
    rw [Nat.toDigits_eq_if hlow] at h
    split at h
    · have hzero : n.digitChar = '0' := by simpa using h
      have := digitValue_digitChar (d := n) (by omega)
      rw [hzero] at this
      exact this.symm
    · have hpos : 0 < n / base := Nat.div_pos (by omega) (by omega)
      rw [List.head?_append_of_ne_nil _ Nat.toDigits_ne_nil] at h
      have := ih (n / base) (Nat.div_lt_self (by omega) hlow) h
      omega

theorem isNumeral_toDigits (n : Nat) : IsNumeral base (Nat.toDigits base n) where
  ne_nil := Nat.toDigits_ne_nil
  mem_alphabet _ h := mem_alphabet_of_mem_toDigits hlow hhigh h
  eq_of_head_zero h := by
    rw [eq_zero_of_head_toDigits hlow hhigh h, Nat.toDigits_zero]

end

/-! ## Texts -/

theorem toList_hex (n : Nat) : (hex n).toList = Nat.toDigits 16 n :=
  String.toList_ofList

theorem isHex_hex (n : Nat) : IsHex n (hex n) where
  numeral := by
    rw [toList_hex]
    exact isNumeral_toDigits (by decide) (by decide) n
  value_eq := by
    rw [toList_hex]
    exact value_toDigits (by decide) (by decide) n

theorem toList_decimal (n : Int) :
    (decimal n).toList =
      if n < 0 then '-' :: Nat.toDigits 10 n.natAbs else Nat.toDigits 10 n.natAbs := by
  simp [decimal]

theorem isDecimal_decimal (n : Int) : IsDecimal n (decimal n) :=
  ⟨Nat.toDigits 10 n.natAbs, toList_decimal n,
    isNumeral_toDigits (by decide) (by decide) _, value_toDigits (by decide) (by decide) _⟩

theorem mem_of_mem_decimal {n : Int} {c : Char} (h : c ∈ (decimal n).toList) :
    c ∈ '-' :: alphabet 10 := by
  rw [toList_decimal] at h
  split at h
  · rcases List.mem_cons.mp h with rfl | h
    · exact List.mem_cons_self
    · exact List.mem_cons_of_mem _ (mem_alphabet_of_mem_toDigits (by decide) (by decide) h)
  · exact List.mem_cons_of_mem _ (mem_alphabet_of_mem_toDigits (by decide) (by decide) h)

theorem hex_ne_empty (n : Nat) : hex n ≠ "" := by
  intro h
  exact (isHex_hex n).numeral.ne_nil (String.toList_eq_nil_iff.mpr h)

theorem comma_not_mem_hex (n : Nat) : ',' ∉ (hex n).toList := by
  intro h
  exact ne_comma_of_mem_alphabet ((isHex_hex n).numeral.mem_alphabet _ h) rfl

theorem comma_not_mem_decimal (n : Int) : ',' ∉ (decimal n).toList := by
  intro h
  exact absurd (mem_of_mem_decimal h) (by decide)

/-- A hexadecimal numeral has at most `k` digits when its number is below `16 ^ k`. -/
theorem length_hex_le_iff {n k : Nat} (hk : 0 < k) : (hex n).length ≤ k ↔ n < 16 ^ k := by
  unfold hex
  rw [String.length_ofList]
  exact Nat.length_toDigits_le_iff (by decide) hk

end Fixture.Numeral
