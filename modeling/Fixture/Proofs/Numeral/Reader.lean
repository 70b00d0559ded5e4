-- SUMMARY: Which texts are integers, with what value, and why the others are refused.
import Fixture.Numeral.Reader
import Fixture.Proofs.Numeral
import Fixture.Proofs.Text.Blank

/-!
# The texts of integers

Reading looks ahead at signs, then at emptiness, then at the first character,
and then at the rest. What it accepts is one grammar: a sign or none, a digit,
and then digits and underscores. A text that ends where a digit is wanted is
empty, and any other text is refused for a character that is no digit.
-/

namespace Fixture.Numeral

/-! ## The grammar -/

/-- A digit, and then digits and underscores. -/
def IsGrouped (cs : List Char) : Prop :=
  ∃ d rest, cs = d :: rest ∧ d.isDigit = true ∧ ∀ c ∈ rest, c.isDigit = true ∨ c = '_'

/-- The number that the digits make up when the underscores are dropped. -/
def groupedValue (cs : List Char) : Nat := value 10 (cs.filter (· != '_'))

/-- `cs` is a sign or none, and grouped digits, with the value `v`. -/
inductive Spells : List Char → Int → Prop
  | unsigned {cs : List Char} (h : IsGrouped cs) : Spells cs (groupedValue cs)
  | plus {cs : List Char} (h : IsGrouped cs) : Spells ('+' :: cs) (groupedValue cs)
  | minus {cs : List Char} (h : IsGrouped cs) : Spells ('-' :: cs) (-(groupedValue cs))

/-- A text that stops before a digit could follow. -/
def LacksDigits (cs : List Char) : Prop := cs = [] ∨ cs = ['+'] ∨ cs = ['-']

theorem ne_nil_of_isGrouped {cs : List Char} (h : IsGrouped cs) : cs ≠ [] := by
  obtain ⟨d, rest, rfl, -⟩ := h
  exact List.cons_ne_nil d rest

theorem not_isGrouped_cons {c : Char} (h : c.isDigit = false) (cs : List Char) :
    ¬ IsGrouped (c :: cs) := by
  rintro ⟨d, rest, heq, hdigit, -⟩
  obtain ⟨rfl, -⟩ := List.cons.inj heq
  simp [h] at hdigit

/-! ## Magnitudes -/

theorem filter_isDigit_of_isGrouped {cs : List Char} (h : IsGrouped cs) :
    cs.filter Char.isDigit = cs.filter (· != '_') := by
  obtain ⟨d, rest, rfl, hdigit, hrest⟩ := h
  apply List.filter_congr
  intro c hc
  have hunderscore : '_'.isDigit = false := by decide
  have hc : c.isDigit = true ∨ c = '_' := by
    rcases List.mem_cons.mp hc with rfl | hc
    · exact .inl hdigit
    · exact hrest c hc
  rcases hc with hc | rfl
  · have hne : c ≠ '_' := by
      rintro rfl
      simp [hunderscore] at hc
    simp [hc, hne]
  · simp [hunderscore]

theorem readMagnitude_eq_ok_iff {cs : List Char} {n : Nat} :
    readMagnitude cs = .ok n ↔ IsGrouped cs ∧ n = groupedValue cs := by
  constructor
  · intro h
    cases cs with
    | nil => contradiction
    | cons c cs =>
      obtain ⟨hdigit, hrest⟩ := grouped_of_readMagnitude h
      have hgrouped : IsGrouped (c :: cs) := by
        refine ⟨c, cs, rfl, hdigit, fun d hd => ?_⟩
        simpa [isDigitOrUnderscore] using List.all_eq_true.mp hrest d hd
      refine ⟨hgrouped, ?_⟩
      simp only [readMagnitude, hdigit, hrest, Bool.and_self, if_true,
        filter_isDigit_of_isGrouped hgrouped] at h
      exact (Except.ok.inj h).symm
  · rintro ⟨hgrouped, rfl⟩
    have hfilter := filter_isDigit_of_isGrouped hgrouped
    obtain ⟨c, cs, rfl, hdigit, hrest⟩ := hgrouped
    have hall : cs.all isDigitOrUnderscore = true := by
      rw [List.all_eq_true]
      intro d hd
      simpa [isDigitOrUnderscore] using hrest d hd
    simp only [readMagnitude, hdigit, hall, Bool.and_self, if_true, hfilter]
    rfl

theorem readMagnitude_eq_empty_iff {cs : List Char} :
    readMagnitude cs = .error .empty ↔ cs = [] := by
  cases cs with
  | nil => simp [readMagnitude]
  | cons c cs =>
    simp only [readMagnitude]
    split <;> simp

/-! ## Signs -/

/-- A text is empty, or a sign with the rest behind it, or has no sign. -/
theorem sign_cases (cs : List Char) :
    cs = [] ∨ (∃ rest, cs = '-' :: rest) ∨ (∃ rest, cs = '+' :: rest) ∨
      ∃ c rest, cs = c :: rest ∧ c ≠ '-' ∧ c ≠ '+' := by
  cases cs with
  | nil => exact .inl rfl
  | cons c rest =>
    by_cases hminus : c = '-'
    · exact .inr (.inl ⟨rest, by rw [hminus]⟩)
    · by_cases hplus : c = '+'
      · exact .inr (.inr (.inl ⟨rest, by rw [hplus]⟩))
      · exact .inr (.inr (.inr ⟨c, rest, rfl, hminus, hplus⟩))

theorem map_readMagnitude_eq_ok_iff {cs : List Char} {f : Nat → Int} {v : Int} :
    (readMagnitude cs).map f = .ok v ↔ IsGrouped cs ∧ v = f (groupedValue cs) := by
  cases h : readMagnitude cs with
  | error fault =>
    have hnot : ¬ IsGrouped cs := by
      intro hgrouped
      rw [readMagnitude_eq_ok_iff.mpr ⟨hgrouped, rfl⟩] at h
      contradiction
    simp [Except.map, hnot]
  | ok n =>
    obtain ⟨hgrouped, rfl⟩ := readMagnitude_eq_ok_iff.mp h
    simp [Except.map, hgrouped, eq_comm]

theorem map_readMagnitude_eq_empty_iff {cs : List Char} {f : Nat → Int} :
    (readMagnitude cs).map f = .error .empty ↔ cs = [] := by
  rw [← readMagnitude_eq_empty_iff]
  cases readMagnitude cs <;> simp [Except.map]

theorem readSigned_eq_ok_iff {cs : List Char} {v : Int} :
    readSigned cs = .ok v ↔ Spells cs v := by
  constructor
  · intro h
    rcases sign_cases cs with rfl | ⟨rest, rfl⟩ | ⟨rest, rfl⟩ | ⟨c, rest, rfl, hc, hc'⟩
    · contradiction
    · rw [readSigned_minus, map_readMagnitude_eq_ok_iff] at h
      exact h.2 ▸ .minus h.1
    · rw [readSigned_plus, map_readMagnitude_eq_ok_iff] at h
      exact h.2 ▸ .plus h.1
    · rw [readSigned_of_unsigned hc hc', map_readMagnitude_eq_ok_iff] at h
      exact h.2 ▸ .unsigned h.1
  · intro h
    cases h with
    | minus h => rw [readSigned_minus, map_readMagnitude_eq_ok_iff]; exact ⟨h, rfl⟩
    | plus h => rw [readSigned_plus, map_readMagnitude_eq_ok_iff]; exact ⟨h, rfl⟩
    | unsigned h =>
      rcases sign_cases cs with rfl | ⟨rest, rfl⟩ | ⟨rest, rfl⟩ | ⟨c, rest, rfl, hc, hc'⟩
      · exact absurd rfl (ne_nil_of_isGrouped h)
      · exact absurd h (not_isGrouped_cons (by decide) rest)
      · exact absurd h (not_isGrouped_cons (by decide) rest)
      · rw [readSigned_of_unsigned hc hc', map_readMagnitude_eq_ok_iff]
        exact ⟨h, rfl⟩

theorem readSigned_eq_empty_iff {cs : List Char} :
    readSigned cs = .error .empty ↔ LacksDigits cs := by
  rcases sign_cases cs with rfl | ⟨rest, rfl⟩ | ⟨rest, rfl⟩ | ⟨c, rest, rfl, hc, hc'⟩
  · simp [readSigned, takeMinus, dropPlus, readMagnitude, Except.map, LacksDigits]
  · rw [readSigned_minus, map_readMagnitude_eq_empty_iff]
    simp [LacksDigits]
  · rw [readSigned_plus, map_readMagnitude_eq_empty_iff]
    simp [LacksDigits]
  · rw [readSigned_of_unsigned hc hc', map_readMagnitude_eq_empty_iff]
    simp [LacksDigits, hc, hc']

theorem ne_nil_of_spells {cs : List Char} {v : Int} (h : Spells cs v) : cs ≠ [] := by
  cases h with
  | unsigned h => exact ne_nil_of_isGrouped h
  | plus h => exact List.cons_ne_nil _ _
  | minus h => exact List.cons_ne_nil _ _

theorem isGrouped_of_spells_minus {cs : List Char} {v : Int} (h : Spells ('-' :: cs) v) :
    IsGrouped cs := by
  cases h with
  | unsigned h => exact absurd h (not_isGrouped_cons (by decide) cs)
  | minus h => exact h

/-! ## Texts -/

theorem readInt_eq_ok_iff {text : String} {v : Int} :
    readInt text = .ok v ↔ Spells (Text.trim text.toList) v :=
  readSigned_eq_ok_iff

theorem readInt_between_blanks {front back : String} (hfront : Text.AllBlank front.toList)
    (hback : Text.AllBlank back.toList) (text : String) :
    readInt (front ++ text ++ back) = readInt text := by
  unfold readInt
  rw [String.toList_append, String.toList_append, Text.trim_between_blanks hfront hback]

/-- A minus with no blank before it has a digit behind it. -/
theorem exists_digit_of_readInt {text : String} {v : Int} {cs : List Char}
    (h : readInt text = .ok v) (htext : text.toList = '-' :: cs) :
    ∃ d rest, cs = d :: rest ∧ d.isDigit = true := by
  obtain ⟨hbody, front, back, hfront, -, heq⟩ := Text.trims_trim text.toList
  have hspells := readInt_eq_ok_iff.mp h
  generalize Text.trim text.toList = body at hbody hspells heq
  rw [htext] at heq
  have hnil : front = [] := by
    cases front with
    | nil => rfl
    | cons c front =>
      obtain ⟨rfl, -⟩ := List.cons.inj heq
      exact absurd (hfront '-' List.mem_cons_self) (by decide)
  subst hnil
  cases body with
  | nil => exact absurd rfl (ne_nil_of_spells hspells)
  | cons c body =>
    obtain ⟨rfl, rfl⟩ := List.cons.inj heq
    obtain ⟨d, rest, rfl, hd, -⟩ := isGrouped_of_spells_minus hspells
    exact ⟨d, rest ++ back, rfl, hd⟩

/-! ### Decimal numerals -/

theorem isBlank_eq_false_of_mem_decimal {n : Int} {c : Char} (h : c ∈ (decimal n).toList) :
    Text.isBlank c = false := by
  have hall : ('-' :: alphabet 10).all (fun c => !Text.isBlank c) = true := by decide
  simpa using List.all_eq_true.mp hall c (mem_of_mem_decimal h)

/-- A numeral has no underscore to drop. -/
theorem isGrouped_of_isNumeral {digits : List Char} (h : IsNumeral 10 digits) :
    IsGrouped digits ∧ groupedValue digits = value 10 digits := by
  have hdigit : ∀ c ∈ digits, c.isDigit = true :=
    fun c hc => isDigit_of_mem_alphabet (h.mem_alphabet c hc)
  have hgrouped : IsGrouped digits := by
    obtain ⟨d, rest, rfl⟩ := List.exists_cons_of_ne_nil h.ne_nil
    obtain ⟨hd, hrest⟩ := List.forall_mem_cons.mp hdigit
    exact ⟨d, rest, rfl, hd, fun c hc => .inl (hrest c hc)⟩
  refine ⟨hgrouped, ?_⟩
  rw [groupedValue, ← filter_isDigit_of_isGrouped hgrouped, List.filter_eq_self.mpr hdigit]

theorem spells_decimal (n : Int) : Spells (decimal n).toList n := by
  have hlow : 1 < 10 := by decide
  have hhigh : 10 ≤ 16 := by decide
  obtain ⟨hgrouped, hvalue⟩ := isGrouped_of_isNumeral (isNumeral_toDigits hlow hhigh n.natAbs)
  rw [value_toDigits hlow hhigh] at hvalue
  rw [toList_decimal]
  split
  · have hspells := Spells.minus hgrouped
    have hn : -(n.natAbs : Int) = n := by omega
    rwa [hvalue, hn] at hspells
  · have hspells := Spells.unsigned hgrouped
    have hn : (n.natAbs : Int) = n := by omega
    rwa [hvalue, hn] at hspells

theorem decimal_ne_empty (n : Int) : decimal n ≠ "" := by
  intro h
  exact ne_nil_of_spells (spells_decimal n) (String.toList_eq_nil_iff.mpr h)

theorem readInt_decimal (n : Int) : readInt (decimal n) = .ok n := by
  rw [readInt_eq_ok_iff, Text.trim_eq_self fun c hc => isBlank_eq_false_of_mem_decimal hc]
  exact spells_decimal n

theorem decimal_injective : Function.Injective decimal := by
  intro m n h
  have hread := readInt_decimal m
  rw [h, readInt_decimal n] at hread
  exact (Except.ok.inj hread).symm

/-! ### Messages -/

/-- The messages of the two faults differ in their ends. -/
theorem Fault.message_inj {text : String} {fault other : Fault} :
    fault.message text = other.message text ↔ fault = other := by
  have hreason : Fault.empty.reason ≠ Fault.invalidDigit.reason := by decide
  unfold Fault.message
  rw [String.append_right_inj]
  cases fault <;> cases other <;> simp [hreason, hreason.symm]

theorem readInt_eq_invalidDigit_iff {text : String} :
    readInt text = .error .invalidDigit ↔
      (∀ v, ¬ Spells (Text.trim text.toList) v) ∧ ¬ LacksDigits (Text.trim text.toList) := by
  simp only [← readInt_eq_ok_iff, ← readSigned_eq_empty_iff]
  show _ ↔ _ ∧ ¬ readInt text = _
  cases readInt text with
  | ok v => simp
  | error fault => cases fault <;> simp

/-- A text is an integer when it spells one between blanks, and the message that
    refuses any other text says what is missing. -/
theorem readInt_grammar (text : String) :
    let body := Text.trim text.toList
    let answer := (readInt text).mapError fun fault => fault.message text
    let refusal := fun reason => Except.error ("invalid integer '" ++ text ++ "': " ++ reason)
    Text.Trims text.toList body ∧
    (∀ v, answer = .ok v ↔ Spells body v) ∧
    (answer = refusal "cannot parse integer from empty string" ↔ LacksDigits body) ∧
    (answer = refusal "invalid digit found in string" ↔
      (∀ v, ¬ Spells body v) ∧ ¬ LacksDigits body) ∧
    ∀ (v : Int) (front back : String), Text.AllBlank front.toList → Text.AllBlank back.toList →
      text = front ++ decimal v ++ back → answer = .ok v := by
  intro body answer refusal
  have hok (v : Int) : answer = .ok v ↔ readInt text = .ok v := by
    simp only [answer]
    cases readInt text <;> simp [Except.mapError]
  have herror (fault : Fault) : answer = refusal fault.reason ↔ readInt text = .error fault := by
    show answer = .error (fault.message text) ↔ _
    simp only [answer]
    cases readInt text <;> simp [Except.mapError, Fault.message_inj]
  refine ⟨Text.trims_trim _, ?_, ?_, ?_, ?_⟩
  · intro v
    rw [hok, readInt_eq_ok_iff]
  · exact (herror .empty).trans readSigned_eq_empty_iff
  · exact (herror .invalidDigit).trans readInt_eq_invalidDigit_iff
  · intro v front back hfront hback htext
    rw [hok, htext, readInt_between_blanks hfront hback, readInt_decimal]

end Fixture.Numeral
