-- SUMMARY: What the events of a generator tell about its arguments and its line.
import Fixture.Proofs.Generate

/-!
# The events of a line

Three things are found in three ways: whether there is a warning by the sign of
the count, whether the line is empty by the run, and how many keys there are by
counting them. They agree for every count. The fields of an event read back as
the arguments of the generator.
-/

namespace Fixture

/-! ## Fields of an event -/

namespace Event

/-- The text of a field. -/
def field? (e : Event) (name : String) : Option String := e.fields.lookup name

/-- The integer that a field reads as. -/
def integer? (e : Event) (name : String) : Option Int :=
  (e.field? name).bind fun text => (Numeral.readInt text).toOption

theorem integer?_eq_some {e : Event} {name : String} {n : Int}
    (h : e.field? name = some (display n)) : e.integer? name = some n := by
  have hread : Numeral.readInt (display n) = .ok n := Numeral.readInt_decimal n
  rw [integer?, h, Option.bind_some, hread]
  rfl

end Event

/-! ## Generators -/

/-- The events of a generator with this count and these arguments tell what
    became of its line. -/
structure Generated.Tells (g : Generated) (count : Int) (arguments : List (String × Int)) :
    Prop where
  /-- There are no events just when the count is missing. -/
  silent : g.events = [] ↔ ∃ what, g.line = .error (.missingCount what)
  /-- Else there is a line. The last event is the one debug event, and a warning
      stands in front of it just when the line is empty. -/
  told : g.events ≠ [] → ∃ line front last, g.line = .ok line ∧ g.events = front ++ [last] ∧
    last.level = .debug ∧ (∀ e ∈ front, e.level ≠ .debug) ∧
    ((∃ e ∈ front, e.level = .warn) ↔ line = "")
  arguments : ∀ e ∈ g.events, ∀ argument ∈ arguments, e.integer? argument.1 = some argument.2
  size : count ≠ 0 → ∃ line, g.line = .ok line ∧ (Line.size line : Int) = max (count + 1) 0

namespace Generate

open Numeral

theorem tells_missingCount (what : String) (arguments : List (String × Int)) :
    Generated.Tells ⟨.error (.missingCount what), []⟩ 0 arguments where
  silent := iff_of_true rfl ⟨what, rfl⟩
  told h := absurd rfl h
  arguments _ h := (List.not_mem_nil h).elim
  size h := absurd rfl h

section
variable {α : Type} [Display α] {f : Nat → α} (htexts : ∀ k, display (f k) ≠ "")
include htexts

theorem display_ne_empty_of_mem_map_range (n : Nat) :
    ∀ v ∈ (List.range n).map f, display v ≠ "" := by
  intro v hv
  obtain ⟨k, -, rfl⟩ := List.mem_map.mp hv
  exact htexts k

/-- Only a negative count gives the empty line. -/
theorem join_range_eq_empty_iff (count : Int) :
    Line.join ((List.range (count + 1).toNat).map f) = "" ↔ count < 0 := by
  rw [Line.join_eq_empty_iff_eq_nil (display_ne_empty_of_mem_map_range htexts _),
    List.map_eq_nil_iff, List.range_eq_nil]
  omega

theorem size_join_range (hcomma : ∀ k, ',' ∉ (display (f k)).toList) (count : Int) :
    (Line.size (Line.join ((List.range (count + 1).toNat).map f)) : Int) = max (count + 1) 0 := by
  rw [Line.size_join (display_ne_empty_of_mem_map_range htexts _)
    (comma_not_mem_map_range hcomma _), List.length_map, List.length_range]
  omega

/-- The line of values by index, with its events. -/
theorem tells_join (hcomma : ∀ k, ',' ∉ (display (f k)).toList) {count : Int}
    {warning last : Event} (hwarning : warning.level = .warn) (hlast : last.level = .debug)
    {arguments : List (String × Int)}
    (hfields : ∀ argument ∈ arguments, warning.field? argument.1 = some (display argument.2) ∧
      last.field? argument.1 = some (display argument.2)) :
    Generated.Tells
      ⟨.ok (Line.join ((List.range (count + 1).toNat).map f)), events count warning last⟩
      count arguments where
  silent := by
    simp [events_eq_append]
  told _ := by
    refine ⟨_, _, last, rfl, events_eq_append count warning last, hlast, ?_, ?_⟩
    · intro e he
      split at he
      · rw [List.mem_singleton.mp he, hwarning]
        decide
      · exact absurd he List.not_mem_nil
    · rw [join_range_eq_empty_iff htexts]
      split <;> simp [*]
  arguments e he argument hargument := by
    obtain ⟨hfirst, hsecond⟩ := hfields argument hargument
    rcases mem_of_mem_events he with rfl | rfl
    · exact Event.integer?_eq_some hfirst
    · exact Event.integer?_eq_some hsecond
  size _ := ⟨_, rfl, size_join_range htexts hcomma count⟩

end

/-! ## The two generators -/

theorem tells_highestValues (count start : Int) :
    (highestValues count start).Tells count [("count", count), ("start", start)] := by
  by_cases hzero : count = 0
  · subst hzero
    exact tells_missingCount "Highest int" _
  · have htexts (k : Nat) : display (start + (k : Int)) ≠ "" := decimal_ne_empty _
    have hcomma (k : Nat) : ',' ∉ (display (start + (k : Int))).toList :=
      comma_not_mem_decimal _
    unfold highestValues
    rw [if_neg hzero, Ascending.values_ofCount]
    refine tells_join htexts hcomma rfl rfl ?_
    simp only [List.forall_mem_cons]
    exact ⟨⟨rfl, rfl⟩, ⟨rfl, rfl⟩, by simp⟩

theorem display_hex_key_ne_empty (k : Nat) : display ((hex ∘ KeyRun.key) k) ≠ "" :=
  hex_ne_empty _

theorem comma_not_mem_display_hex_key (k : Nat) :
    ',' ∉ (display ((hex ∘ KeyRun.key) k)).toList :=
  comma_not_mem_hex _

theorem tells_privateKeys (count : Int) :
    (privateKeys count).Tells count [("count", count)] := by
  by_cases hzero : count = 0
  · subst hzero
    exact tells_missingCount "Number of private keys" _
  · unfold privateKeys
    rw [if_neg hzero, KeyRun.values_ofCount, List.map_map]
    refine tells_join display_hex_key_ne_empty comma_not_mem_display_hex_key rfl rfl ?_
    simp only [List.forall_mem_cons]
    exact ⟨⟨rfl, rfl⟩, by simp⟩

/-- The keys that were counted are the keys in the line. -/
theorem emitted_privateKeys {count : Int} (h : count ≠ 0) :
    ∃ line last, (privateKeys count).line = .ok line ∧
      (privateKeys count).events.getLast? = some last ∧
      last.integer? "emitted" = some (Line.size line : Int) := by
  unfold privateKeys
  rw [if_neg h, KeyRun.values_ofCount, List.map_map]
  dsimp only
  rw [events_eq_append, List.getLast?_concat]
  refine ⟨_, _, rfl, rfl, Event.integer?_eq_some ?_⟩
  rw [Line.size_join (display_ne_empty_of_mem_map_range display_hex_key_ne_empty _)
    (comma_not_mem_map_range comma_not_mem_display_hex_key _)]
  rfl

/-- A generator is silent when its count is missing. Else its last event is the
    one debug event, a warning in front of it means the empty line, and the fields
    read back as the arguments. The event of the keys also says how many there
    are in the line. -/
theorem events_tell (count start : Int) :
    (highestValues count start).Tells count [("count", count), ("start", start)] ∧
    (privateKeys count).Tells count [("count", count)] ∧
    (count ≠ 0 → ∃ line last, (privateKeys count).line = .ok line ∧
      (privateKeys count).events.getLast? = some last ∧
      last.integer? "emitted" = some (Line.size line : Int)) :=
  ⟨tells_highestValues count start, tells_privateKeys count, emitted_privateKeys⟩

end Generate

end Fixture
