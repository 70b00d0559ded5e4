-- SUMMARY: The line an event gives in a log is one line.
import Fixture.Event
import Fixture.Proofs.Text.Control

/-!
# Log lines

The line of an event ends with its only newline, when the texts of the event and
the time have no control characters.
-/

namespace Fixture.Event

/-- The line of an event, without the newline that ends it. -/
def entry (time : String) (e : Event) : String :=
  time ++ " " ++ e.level.padded ++ " " ++ e.message ++
    String.join (e.fields.map fun (name, value) => " " ++ name ++ "=" ++ value)

theorem logLine_eq (time : String) (e : Event) : e.logLine time = e.entry time ++ "\n" := rfl

/-- No text of the event has a control character. -/
structure ControlFree (e : Event) : Prop where
  message : Text.ControlFree e.message
  fields : ∀ field ∈ e.fields, Text.ControlFree field.1 ∧ Text.ControlFree field.2

theorem ControlFree.of_texts {level : Level} {target message : String}
    {fields : List (String × String)} (hmessage : Text.ControlFree message)
    (hfields : ∀ field ∈ fields, Text.ControlFree field.1 ∧ Text.ControlFree field.2) :
    ControlFree ⟨level, target, message, fields⟩ :=
  ⟨hmessage, hfields⟩

theorem controlFree_padded (level : Level) : Text.ControlFree level.padded := by
  cases level <;> decide

theorem controlFree_entry {time : String} {e : Event} (htime : Text.ControlFree time)
    (h : e.ControlFree) : Text.ControlFree (e.entry time) := by
  have hspace : Text.ControlFree " " := by decide
  have hequals : Text.ControlFree "=" := by decide
  have hfields : Text.ControlFree
      (String.join (e.fields.map fun (name, value) => " " ++ name ++ "=" ++ value)) := by
    rw [Text.controlFree_join, List.forall_mem_map]
    intro field hfield
    obtain ⟨hname, hvalue⟩ := h.fields field hfield
    simp only [Text.controlFree_append]
    exact ⟨⟨⟨hspace, hname⟩, hequals⟩, hvalue⟩
  unfold entry
  simp only [Text.controlFree_append]
  exact ⟨⟨⟨⟨⟨htime, hspace⟩, controlFree_padded e.level⟩, hspace⟩, h.message⟩, hfields⟩

end Fixture.Event
