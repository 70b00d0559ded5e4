-- SUMMARY: Texts with no control characters, newlines among them.

/-!
# Texts without control characters

A text with no control characters stays on its line, whatever it is put into.
-/

namespace Fixture.Text

/-- The characters with the Unicode property Control. -/
def isControl (c : Char) : Bool := c.toNat < 0x20 || (0x7F ≤ c.toNat && c.toNat ≤ 0x9F)

def ControlFree (s : String) : Prop := ∀ c ∈ s.toList, isControl c = false

/-- Decided along the text, not over the whole type of characters. -/
instance (s : String) : Decidable (ControlFree s) :=
  decidable_of_iff (s.toList.all (!isControl ·) = true) (by simp [ControlFree])

@[simp] theorem controlFree_append {s t : String} :
    ControlFree (s ++ t) ↔ ControlFree s ∧ ControlFree t := by
  simp only [ControlFree, String.toList_append, List.forall_mem_append]

theorem controlFree_join {texts : List String} :
    ControlFree (String.join texts) ↔ ∀ s ∈ texts, ControlFree s := by
  simp only [ControlFree, String.toList_join, List.mem_flatMap]
  constructor
  · intro h s hs c hc
    exact h c ⟨s, hs, hc⟩
  · rintro h c ⟨s, hs, hc⟩
    exact h s hs c hc

end Fixture.Text
