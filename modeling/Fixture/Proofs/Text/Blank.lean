-- SUMMARY: Trimming a text takes off the blanks at its ends, and nothing else.
import Fixture.Text.Blank
import Mathlib.Data.List.TakeWhile

/-!
# Trimmed texts

A text is cut into blanks, a text with no blank at its ends, and blanks. There
is one text that can stand in the middle, and trimming gives it.
-/

namespace Fixture.Text

def AllBlank (cs : List Char) : Prop := ∀ c ∈ cs, isBlank c = true

/-- There is no blank at either end. -/
structure IsTrimmed (cs : List Char) : Prop where
  head : ∀ c, cs.head? = some c → isBlank c = false
  last : ∀ c, cs.getLast? = some c → isBlank c = false

/-- `cs` is `body` with blanks around it, and `body` has none at its ends. -/
def Trims (cs body : List Char) : Prop :=
  IsTrimmed body ∧ ∃ front back, AllBlank front ∧ AllBlank back ∧ cs = front ++ body ++ back

theorem AllBlank.reverse {cs : List Char} (h : AllBlank cs) : AllBlank cs.reverse :=
  fun c hc => h c (List.mem_reverse.mp hc)

theorem IsTrimmed.reverse {cs : List Char} (h : IsTrimmed cs) : IsTrimmed cs.reverse where
  head c hc := h.last c (by rwa [List.head?_reverse] at hc)
  last c hc := h.head c (by rwa [List.getLast?_reverse] at hc)

/-! ## Blanks in front -/

theorem trimStart_append {front : List Char} (h : AllBlank front) (cs : List Char) :
    trimStart (front ++ cs) = trimStart cs :=
  List.dropWhile_append_of_pos h

theorem allBlank_takeWhile (cs : List Char) : AllBlank (cs.takeWhile isBlank) :=
  fun _ hc => List.mem_takeWhile_imp hc

theorem trimStart_of_head {cs : List Char} (h : ∀ c, cs.head? = some c → isBlank c = false) :
    trimStart cs = cs := by
  cases cs with
  | nil => rfl
  | cons c cs => simp [trimStart, h c rfl]

theorem head_trimStart {cs : List Char} {c : Char} (h : (trimStart cs).head? = some c) :
    isBlank c = false := by
  have hhead := List.head?_dropWhile_not isBlank cs
  rw [trimStart] at h
  simpa [h] using hhead

/-! ## Blanks behind -/

theorem trimEnd_eq (cs : List Char) : trimEnd cs = (trimStart cs.reverse).reverse := rfl

theorem trimEnd_append {back : List Char} (h : AllBlank back) (cs : List Char) :
    trimEnd (cs ++ back) = trimEnd cs := by
  rw [trimEnd_eq, List.reverse_append, trimStart_append h.reverse, trimEnd_eq]

theorem exists_eq_trimEnd_append (cs : List Char) :
    ∃ back, AllBlank back ∧ cs = trimEnd cs ++ back := by
  refine ⟨_, (allBlank_takeWhile cs.reverse).reverse, ?_⟩
  rw [trimEnd_eq, trimStart, ← List.reverse_append, List.takeWhile_append_dropWhile,
    List.reverse_reverse]

/-! ## Both ends -/

theorem isTrimmed_trim (cs : List Char) : IsTrimmed (trim cs) where
  head c hc := by
    -- What is left of a text that begins with no blank is the front of it.
    obtain ⟨back, -, hback⟩ := exists_eq_trimEnd_append (trimStart cs)
    have hfront : (trimStart cs).head? = some c := by
      rw [hback, List.head?_append]
      exact Option.or_eq_some_iff.mpr (.inl hc)
    exact head_trimStart hfront
  last c hc := by
    rw [trim, trimEnd_eq, List.getLast?_reverse] at hc
    exact head_trimStart hc

theorem trims_trim (cs : List Char) : Trims cs (trim cs) := by
  obtain ⟨back, hblank, hback⟩ := exists_eq_trimEnd_append (trimStart cs)
  refine ⟨isTrimmed_trim cs, cs.takeWhile isBlank, back, allBlank_takeWhile cs, hblank, ?_⟩
  rw [List.append_assoc, trim, ← hback, trimStart, List.takeWhile_append_dropWhile]

theorem trim_eq_of_trims {cs body : List Char} (h : Trims cs body) : trim cs = body := by
  obtain ⟨hbody, front, back, hfront, hback, rfl⟩ := h
  rw [trim, List.append_assoc, trimStart_append hfront]
  cases body with
  | nil =>
    have hnil : trimStart back = [] := List.dropWhile_eq_nil_iff.mpr hback
    rw [List.nil_append, hnil]
    rfl
  | cons c cs =>
    have hhead : trimStart (c :: cs ++ back) = c :: cs ++ back := trimStart_of_head hbody.head
    rw [hhead, trimEnd_append hback, trimEnd_eq, trimStart_of_head hbody.reverse.head,
      List.reverse_reverse]

/-- More blanks around a text change nothing. -/
theorem trim_between_blanks {front back : List Char} (hfront : AllBlank front)
    (hback : AllBlank back) (cs : List Char) : trim (front ++ cs ++ back) = trim cs := by
  obtain ⟨hbody, front', back', hfront', hback', heq⟩ := trims_trim cs
  apply trim_eq_of_trims
  refine ⟨hbody, front ++ front', back' ++ back, ?_, ?_, ?_⟩
  · exact List.forall_mem_append.mpr ⟨hfront, hfront'⟩
  · exact List.forall_mem_append.mpr ⟨hback', hback⟩
  · calc front ++ cs ++ back
        = front ++ (front' ++ trim cs ++ back') ++ back := by rw [← heq]
      _ = (front ++ front') ++ trim cs ++ (back' ++ back) := by simp only [List.append_assoc]

end Fixture.Text
