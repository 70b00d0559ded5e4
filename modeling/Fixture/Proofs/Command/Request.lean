-- SUMMARY: What a request gives, by the sign of its count.
import Fixture.Command.Task
import Fixture.Proofs.Event
import Fixture.Proofs.Generate

/-!
# Requests by the sign of their count

Both generators keep to one rule. A zero count is refused without a word. A
negative count gives the empty line and is the only one that is warned of. A
positive count gives a line that is not empty. No text of a line or an event has
a control character.
-/

namespace Fixture

/-- The count that a request is about. -/
def Request.count : Request → Int
  | .highest count _ => count
  | .keys count => count

/-- What is generated keeps to the rule for its count. -/
structure Generated.Fits (g : Generated) (count : Int) : Prop where
  zero : count = 0 → g.events = [] ∧
    ∃ what, Text.ControlFree what ∧ g.line = .error (.missingCount what)
  negative : count < 0 → g.line = .ok ""
  positive : 0 < count → ∃ line, g.line = .ok line ∧ line ≠ ""
  alphabet : ∀ line, g.line = .ok line → ∀ c ∈ line.toList, c ∈ Line.alphabet
  controlFree : ∀ e ∈ g.events, e.ControlFree
  warning : ∀ e ∈ g.events, e.level = .warn → count < 0

namespace Generate

theorem fits_missingCount {what : String} (h : Text.ControlFree what) :
    Generated.Fits ⟨.error (.missingCount what), []⟩ 0 where
  zero _ := ⟨rfl, what, h, rfl⟩
  negative h := absurd h (by decide)
  positive h := absurd h (by decide)
  alphabet _ h := nomatch h
  controlFree _ h := (List.not_mem_nil h).elim
  warning _ h := (List.not_mem_nil h).elim

/-- A line of numerals, with its events. -/
theorem fits_join {α : Type} [Display α] {count : Int} (hne : count ≠ 0) {f : Nat → α}
    (hf : ∀ k, ∀ c ∈ (display (f k)).toList, c ∈ Line.alphabet ∧ c ≠ ',') {warning last : Event}
    (hwarning : warning.ControlFree) (hlast : last.ControlFree) (hlevel : last.level ≠ .warn) :
    Generated.Fits
      ⟨.ok (Line.join ((List.range (count + 1).toNat).map f)), events count warning last⟩ count where
  zero h := absurd h hne
  negative h := by simp [range_of_neg h]
  positive h := by
    refine ⟨_, rfl, Line.ne_empty_of_length_pieces ?_⟩
    rw [pieces_join_range h fun k hcomma => (hf k _ hcomma).2 rfl, List.length_map,
      List.length_range]
    omega
  alphabet line hline c hc := by
    obtain rfl := Except.ok.inj hline
    rcases Line.mem_toList_join hc with rfl | ⟨v, hv, hc⟩
    · decide
    · obtain ⟨k, -, rfl⟩ := List.mem_map.mp hv
      exact (hf k c hc).1
  controlFree e he := by
    rcases mem_of_mem_events he with rfl | rfl
    · exact hwarning
    · exact hlast
  warning e he hwarn := by
    simp only [events] at he
    split at he
    · assumption
    · rw [List.mem_singleton.mp he] at hwarn
      exact absurd hwarn hlevel

theorem controlFree_decimal (n : Int) : Text.ControlFree (Numeral.decimal n) := by
  intro c hc
  have hall : ('-' :: Numeral.alphabet 10).all (!Text.isControl ·) = true := by decide
  simpa using List.all_eq_true.mp hall c (Numeral.mem_of_mem_decimal hc)

theorem mem_alphabet_of_mem_decimal {n : Int} {c : Char} (h : c ∈ (Numeral.decimal n).toList) :
    c ∈ Line.alphabet ∧ c ≠ ',' := by
  have hall : ('-' :: Numeral.alphabet 10).all (fun c => c ∈ Line.alphabet ∧ c ≠ ',') = true := by
    decide
  exact of_decide_eq_true (List.all_eq_true.mp hall c (Numeral.mem_of_mem_decimal h))

theorem mem_alphabet_of_mem_hex {n : Nat} {c : Char} (h : c ∈ (Numeral.hex n).toList) :
    c ∈ Line.alphabet ∧ c ≠ ',' := by
  have hall : (Numeral.alphabet 16).all (fun c => c ∈ Line.alphabet ∧ c ≠ ',') = true := by decide
  have hmem := (Numeral.isHex_hex n).numeral.mem_alphabet c h
  exact of_decide_eq_true (List.all_eq_true.mp hall c hmem)

theorem fits_highestValues (count start : Int) : (highestValues count start).Fits count := by
  by_cases hzero : count = 0
  · subst hzero
    exact fits_missingCount (by decide)
  · have hfields : ∀ field ∈ [("count", display count), ("start", display start)],
        Text.ControlFree field.1 ∧ Text.ControlFree field.2 := by
      simp only [List.forall_mem_cons]
      exact ⟨⟨by decide, controlFree_decimal count⟩, ⟨by decide, controlFree_decimal start⟩, by simp⟩
    unfold highestValues
    rw [if_neg hzero, Ascending.values_ofCount]
    refine fits_join hzero ?_ (.of_texts (by decide) hfields) (.of_texts (by decide) hfields) nofun
    intro k c hc
    exact mem_alphabet_of_mem_decimal hc

theorem fits_privateKeys (count : Int) : (privateKeys count).Fits count := by
  by_cases hzero : count = 0
  · subst hzero
    exact fits_missingCount (by decide)
  · have hcount : Text.ControlFree (display count) := controlFree_decimal count
    unfold privateKeys
    rw [if_neg hzero, KeyRun.values_ofCount, List.map_map]
    refine fits_join hzero ?_ (.of_texts (by decide) ?_) (.of_texts (by decide) ?_) nofun
    · intro k c hc
      exact mem_alphabet_of_mem_hex hc
    · simp only [List.forall_mem_cons]
      exact ⟨⟨by decide, hcount⟩, by simp⟩
    · simp only [List.forall_mem_cons]
      exact ⟨⟨by decide, hcount⟩, ⟨by decide, controlFree_decimal _⟩, by simp⟩

end Generate

theorem Request.fits_generate (r : Request) : r.generate.Fits r.count := by
  cases r with
  | highest count start => exact Generate.fits_highestValues count start
  | keys count => exact Generate.fits_privateKeys count

end Fixture
