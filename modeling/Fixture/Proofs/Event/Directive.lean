-- SUMMARY: The texts of thresholds and directives, and the filter of a list of directives.
import Fixture.Event.Filter
import Fixture.Proofs.Line
import Fixture.Proofs.Numeral
import Mathlib.Data.List.TakeDrop
import Mathlib.Data.List.TakeWhile

/-!
# Texts of directives

A threshold is written as its word or as its place among the others, and a
directive as a threshold, a target with a threshold behind an equals sign, or a
target. Reading accepts these texts and no others. A filter is read from the
texts of its directives with commas between them.
-/

namespace Fixture

/-! ## Thresholds -/

namespace Threshold

def word : Threshold → String
  | .off => "off"
  | .upTo .error => "error"
  | .upTo .warn => "warn"
  | .upTo .info => "info"
  | .upTo .debug => "debug"
  | .upTo .trace => "trace"

/-- The place of a threshold, from 0 to 5. -/
def place : Threshold → Nat
  | .off => 0
  | .upTo level => level.rank

/-- What a place is read from: the text without a plus in front. -/
def digits (text : List Char) : List Char := if text.head? = some '+' then text.tail else text

/-- The texts of a threshold. The word may be in any letter case, and the place
    may have a plus and zeros in front. -/
inductive Spells (threshold : Threshold) (text : List Char) : Prop
  | word (h : text.map Char.toLower = threshold.word.toList)
  | place (hne : digits text ≠ []) (hdigits : (digits text).all Char.isDigit = true)
      (hvalue : Numeral.value 10 (digits text) = threshold.place)

theorem digits_of_ne_plus {c : Char} (h : c ≠ '+') (text : List Char) :
    digits (c :: text) = c :: text := by
  simp [digits, h]

section
variable {threshold : Threshold} {text : List Char}

theorem ofWord?_eq_some_iff :
    ofWord? text = some threshold ↔ text.map Char.toLower = threshold.word.toList := by
  rw [← String.toList_ofList (l := text.map Char.toLower), String.toList_inj]
  unfold ofWord?
  generalize String.ofList (text.map Char.toLower) = lower
  split <;> rcases threshold with _ | (_ | _ | _ | _ | _) <;> simp_all [word]

theorem ofPlace?_eq_some_iff {n : Nat} : ofPlace? n = some threshold ↔ n = threshold.place := by
  unfold ofPlace?
  split <;> rcases threshold with _ | (_ | _ | _ | _ | _) <;> simp_all [place, Level.rank]

theorem ofDigits?_eq_some_iff :
    ofDigits? text = some threshold ↔ (digits text ≠ [] ∧ (digits text).all Char.isDigit = true) ∧
      Numeral.value 10 (digits text) = threshold.place := by
  unfold ofDigits?
  rw [← digits]
  by_cases h : digits text ≠ [] ∧ (digits text).all Char.isDigit = true
  · rw [if_pos h, ofPlace?_eq_some_iff, and_iff_right h]
  · rw [if_neg h]
    exact iff_of_false nofun fun hall => h hall.1

/-- A place begins with a plus or a digit. -/
theorem exists_cons_of_digits (hne : digits text ≠ [])
    (hdigits : (digits text).all Char.isDigit = true) :
    ∃ c rest, text = c :: rest ∧ c ∈ '+' :: Numeral.alphabet 10 := by
  cases text with
  | nil => exact absurd rfl hne
  | cons c rest =>
    refine ⟨c, rest, rfl, List.mem_cons.mpr ?_⟩
    by_cases hplus : c = '+'
    · exact .inl hplus
    · rw [digits_of_ne_plus hplus] at hdigits
      have hdigit := List.all_eq_true.mp hdigits c List.mem_cons_self
      exact .inr (Numeral.mem_alphabet_of_isDigit hdigit)

theorem head?_word (threshold : Threshold) :
    ∃ c, threshold.word.toList.head? = some c ∧ c ∈ "oewidt".toList := by
  rcases threshold with _ | (_ | _ | _ | _ | _) <;> exact ⟨_, rfl, by decide⟩

/-- A place is no word. -/
theorem ofWord?_eq_none (hne : digits text ≠ [])
    (hdigits : (digits text).all Char.isDigit = true) : ofWord? text = none := by
  obtain ⟨c, rest, rfl, hc⟩ := exists_cons_of_digits hne hdigits
  have hall : ('+' :: Numeral.alphabet 10).all (fun c => c.toLower ∉ "oewidt".toList) = true := by
    decide
  rw [Option.eq_none_iff_forall_ne_some]
  intro threshold hword
  obtain ⟨first, hhead, hfirst⟩ := head?_word threshold
  rw [← ofWord?_eq_some_iff.mp hword] at hhead
  obtain rfl := Option.some.inj hhead
  exact of_decide_eq_true (List.all_eq_true.mp hall c hc) hfirst

theorem parse?_eq_some_iff : parse? text = some threshold ↔ threshold.Spells text := by
  unfold parse?
  rw [Option.or_eq_some_iff, ofWord?_eq_some_iff, ofDigits?_eq_some_iff]
  constructor
  · rintro (hword | ⟨-, ⟨hne, hdigits⟩, hvalue⟩)
    · exact .word hword
    · exact .place hne hdigits hvalue
  · rintro (hword | ⟨hne, hdigits, hvalue⟩)
    · exact .inl hword
    · exact .inr ⟨ofWord?_eq_none hne hdigits, ⟨hne, hdigits⟩, hvalue⟩

theorem parse?_eq_none_iff : parse? text = none ↔ ∀ threshold : Threshold, ¬ threshold.Spells text := by
  rw [Option.eq_none_iff_forall_ne_some]
  simp only [ne_eq, parse?_eq_some_iff]

theorem Spells.ne_nil (h : threshold.Spells text) : text ≠ [] := by
  rintro rfl
  cases h with
  | word h => rcases threshold with _ | (_ | _ | _ | _ | _) <;> contradiction
  | place hne _ _ => exact hne rfl

theorem mem_digits {c : Char} (h : c ∈ text) (hplus : c ≠ '+') : c ∈ digits text := by
  cases text with
  | nil => exact absurd h List.not_mem_nil
  | cons first rest =>
    by_cases hfirst : first = '+'
    · subst hfirst
      exact (List.mem_cons.mp h).resolve_left hplus
    · rwa [digits_of_ne_plus hfirst]

theorem isAlphanum_of_mem_word {c : Char} (h : c ∈ threshold.word.toList) :
    c.isAlphanum = true := by
  have hall : threshold.word.toList.all Char.isAlphanum = true := by
    rcases threshold with _ | (_ | _ | _ | _ | _) <;> decide
  exact List.all_eq_true.mp hall c h

/-- Neither a word nor a place has a sign other than a plus in it. -/
theorem Spells.not_mem (h : threshold.Spells text) {c : Char} (hlower : c.toLower = c)
    (hsign : c.isAlphanum = false) (hplus : c ≠ '+') : c ∉ text := by
  intro hmem
  have htrue : c.isAlphanum = true := by
    cases h with
    | word h =>
      have hword : c ∈ threshold.word.toList := by
        rw [← h, ← hlower]
        exact List.mem_map_of_mem hmem
      exact isAlphanum_of_mem_word hword
    | place _ hdigits _ =>
      have hdigit := List.all_eq_true.mp hdigits c (mem_digits hmem hplus)
      rw [Char.isAlphanum, hdigit, Bool.or_true]
  rw [hsign] at htrue
  contradiction

theorem Spells.equals_not_mem (h : threshold.Spells text) : '=' ∉ text :=
  h.not_mem rfl rfl (by decide)

theorem Spells.bracket_not_mem (h : threshold.Spells text) : '[' ∉ text :=
  h.not_mem rfl rfl (by decide)

end

end Threshold

/-! ## Directives -/

namespace Directive

/-- Where a directive may begin. -/
def Opens (text : List Char) : Prop := text.head?.any isOpening = true

instance (text : List Char) : Decidable (Opens text) :=
  inferInstanceAs (Decidable (_ = true))

/-- The texts of a directive: a threshold for every target, a target and its
    threshold, or a target with nothing behind it. Blanks may stand in front when
    there is no equals sign. No target has an opening bracket in it. -/
inductive Spells : Directive → List Char → Prop
  | everywhere {threshold : Threshold} {text : List Char} (hopens : Opens (Text.trimStart text))
      (h : threshold.Spells text) : Spells ⟨[], threshold⟩ text
  | bare {target : List Char} (hopens : Opens (Text.trimStart target)) (hequals : '=' ∉ target)
      (hbracket : '[' ∉ target) (h : ∀ threshold : Threshold, ¬ threshold.Spells target) :
      Spells ⟨target, .upTo .trace⟩ target
  | pair {target text : List Char} {threshold : Threshold} (hopens : Opens target)
      (hequals : '=' ∉ target) (hbracket : '[' ∉ target) (h : threshold.Spells text) :
      Spells ⟨target, threshold⟩ (target ++ '=' :: text)
  | unlimited {target : List Char} (hopens : Opens target) (hequals : '=' ∉ target)
      (hbracket : '[' ∉ target) : Spells ⟨target, .upTo .trace⟩ (target ++ ['='])

section
variable {d : Directive} {text target threshold : List Char}

/-- Nothing with an opening bracket in it is a text of a directive. -/
theorem Spells.bracket_not_mem (h : d.Spells text) : '[' ∉ text := by
  cases h with
  | everywhere _ h => exact h.bracket_not_mem
  | bare _ _ hbracket _ => exact hbracket
  | pair _ _ hbracket h =>
    simp [hbracket, h.bracket_not_mem]
  | unlimited _ _ hbracket => simp [hbracket]

theorem span_append (h : '=' ∉ target) (rest : List Char) :
    (target ++ rest).span (· != '=') =
      (target ++ rest.takeWhile (· != '='), rest.dropWhile (· != '=')) := by
  have hall : ∀ c ∈ target, (c != '=') = true := by
    rintro c hc
    rw [bne_iff_ne]
    rintro rfl
    exact h hc
  rw [List.span_eq_takeWhile_dropWhile, List.takeWhile_append_of_pos hall,
    List.dropWhile_append_of_pos hall]

theorem parse?_of_bracket (h : '[' ∈ text) : parse? text = none := if_pos h

theorem parse?_of_no_equals (hbracket : '[' ∉ text) (h : '=' ∉ text) :
    parse? text = if Opens (Text.trimStart text) then some (ofWord text) else none := by
  have hspan := span_append h []
  rw [List.append_nil] at hspan
  unfold parse?
  rw [hspan]
  exact if_neg hbracket

theorem parse?_of_equals (hbracket : '[' ∉ target ++ '=' :: threshold) (h : '=' ∉ target) :
    parse? (target ++ '=' :: threshold) =
      if Opens target then ofPair? target threshold else none := by
  -- An equals sign opens no directive, so that there has to be a target.
  have hequals : isOpening '=' = false := by decide +kernel
  have hopens : (target ++ '=' :: threshold).head?.any isOpening = target.head?.any isOpening := by
    cases target with
    | nil => simp [hequals]
    | cons c target => rfl
  have hspan := span_append h ('=' :: threshold)
  simp only [List.takeWhile_cons, List.dropWhile_cons, bne_self_eq_false, Bool.false_eq_true,
    if_false, List.append_nil] at hspan
  unfold parse?
  rw [hspan, hopens]
  exact if_neg hbracket

theorem spells_ofWord (hopens : Opens (Text.trimStart text)) (hequals : '=' ∉ text)
    (hbracket : '[' ∉ text) : (ofWord text).Spells text := by
  unfold ofWord
  split
  · exact .everywhere hopens (Threshold.parse?_eq_some_iff.mp ‹_›)
  · exact .bare hopens hequals hbracket (Threshold.parse?_eq_none_iff.mp ‹_›)

theorem spells_of_ofPair? (hopens : Opens target) (hequals : '=' ∉ target) (hbracket : '[' ∉ target)
    (h : ofPair? target threshold = some d) : d.Spells (target ++ '=' :: threshold) := by
  unfold ofPair? at h
  split at h
  case isTrue hnil =>
    obtain rfl := Option.some.inj h
    rw [hnil]
    exact .unlimited hopens hequals hbracket
  case isFalse =>
    obtain ⟨read, hread, rfl⟩ := Option.map_eq_some_iff.mp h
    exact .pair hopens hequals hbracket (Threshold.parse?_eq_some_iff.mp hread)

theorem spells_of_parse? (h : parse? text = some d) : d.Spells text := by
  have hbracket : '[' ∉ text := by
    intro hmem
    rw [parse?_of_bracket hmem] at h
    contradiction
  by_cases hequals : '=' ∈ text
  · obtain ⟨target, threshold, rfl, hnot⟩ := List.eq_append_cons_of_mem hequals
    rw [parse?_of_equals hbracket hnot] at h
    split at h
    · exact spells_of_ofPair? ‹_› hnot (fun hmem => hbracket (List.mem_append_left _ hmem)) h
    · contradiction
  · rw [parse?_of_no_equals hbracket hequals] at h
    split at h
    · obtain rfl := Option.some.inj h
      exact spells_ofWord ‹_› hequals hbracket
    · contradiction

theorem parse?_of_spells (h : d.Spells text) : parse? text = some d := by
  have hbracket := h.bracket_not_mem
  cases h with
  | everywhere hopens h =>
    rw [parse?_of_no_equals hbracket h.equals_not_mem, if_pos hopens, ofWord,
      Threshold.parse?_eq_some_iff.mpr h]
  | bare hopens hequals _ h =>
    rw [parse?_of_no_equals hbracket hequals, if_pos hopens, ofWord,
      Threshold.parse?_eq_none_iff.mpr h]
  | pair hopens hequals _ h =>
    rw [parse?_of_equals hbracket hequals, if_pos hopens, ofPair?, if_neg h.ne_nil,
      Threshold.parse?_eq_some_iff.mpr h]
    rfl
  | unlimited hopens hequals _ =>
    rw [parse?_of_equals hbracket hequals, if_pos hopens, ofPair?, if_pos rfl]

/-- Reading accepts the texts of a directive, and nothing else. -/
theorem parse?_eq_some_iff : parse? text = some d ↔ d.Spells text :=
  ⟨spells_of_parse?, parse?_of_spells⟩

theorem Spells.ne_nil (h : d.Spells text) : text ≠ [] := by
  rintro rfl
  have hnone : parse? [] = none := by decide
  rw [parse?_of_spells h] at hnone
  contradiction

end

end Directive

/-! ## Filters -/

/-- A directive as it stands in the text of a filter. -/
structure Clause where
  directive : Directive
  text : String
  spells : directive.Spells text.toList
  comma_not_mem : ',' ∉ text.toList

namespace Clause

/-- A text that reads as a directive and has no comma in it. -/
def ofText (text : String) (d : Directive) (h : Directive.parse? text.toList = some d)
    (hcomma : ',' ∉ text.toList) : Clause :=
  ⟨d, text, Directive.parse?_eq_some_iff.mp h, hcomma⟩

/-- The text of the filter with these clauses. -/
def filterText (clauses : List Clause) : String := Line.join (clauses.map text)

def directives (clauses : List Clause) : List Directive := clauses.map directive

theorem parts_filterText {clauses : List Clause} (hne : clauses ≠ []) :
    ((filterText clauses).toList.splitOn ',').filter (· ≠ []) =
      clauses.map fun c => c.text.toList := by
  have hcomma : ∀ t ∈ clauses.map text, ',' ∉ (display t).toList := by
    intro text htext
    obtain ⟨c, -, rfl⟩ := List.mem_map.mp htext
    exact c.comma_not_mem
  have hsplit : (filterText clauses).toList.splitOn ',' = clauses.map fun c => c.text.toList := by
    unfold filterText
    rw [Line.splitOn_join (by simpa using hne) hcomma, List.map_map]
    rfl
  rw [hsplit]
  apply List.filter_eq_self.mpr
  intro text htext
  obtain ⟨c, -, rfl⟩ := List.mem_map.mp htext
  simpa using c.spells.ne_nil

theorem mapM_parse? (clauses : List Clause) :
    (clauses.map fun c => c.text.toList).mapM Directive.parse? = some (directives clauses) := by
  induction clauses with
  | nil => rfl
  | cons c clauses ih =>
    rw [List.map_cons, List.mapM_cons, Directive.parse?_eq_some_iff.mpr c.spells, ih]
    rfl

theorem ofText?_filterText {clauses : List Clause} (hne : clauses ≠ []) :
    Filter.ofText? (some (filterText clauses)) = ⟨directives clauses⟩ := by
  have hparts := parts_filterText hne
  have hread := mapM_parse? clauses
  obtain ⟨c, rest, rfl⟩ := List.exists_cons_of_ne_nil hne
  rw [List.map_cons] at hparts hread
  simp only [Filter.ofText?, Filter.parse?, Option.bind_some, hparts, hread, Option.map_some,
    Option.getD_some]

/-- The text with no clauses is a filter of its own. -/
theorem ofText?_filterText_nil : Filter.ofText? (some (filterText [])) = Filter.empty := by
  decide

end Clause

end Fixture
