-- SUMMARY: Interrupted writes change nothing but the number of writes.
import Fixture.Proofs.Sink
import Mathlib.Data.List.Forall2

/-!
# Interrupted writes

A write that was interrupted accepts nothing and is tried again, so that the
next entry of the script is met in its place. Two sinks whose scripts differ in
interruptions only go through the same lines side by side: the one has met some
interruptions more, and has made that many writes more.
-/

namespace Fixture

/-- The write is to be tried again. -/
def WriteOutcome.isInterruption : WriteOutcome → Bool
  | .accept _ => false
  | .fail failure => failure.kind = .interrupted

/-- A script without its interruptions. -/
def uninterrupted (script : List WriteOutcome) : List WriteOutcome :=
  script.filter fun w => !w.isInterruption

def interruptions (script : List WriteOutcome) : Nat := script.countP (·.isInterruption)

section
variable {w : WriteOutcome} {script : List WriteOutcome}

theorem uninterrupted_cons_of_interruption (h : w.isInterruption = true) :
    uninterrupted (w :: script) = uninterrupted script :=
  List.filter_cons_of_neg (by simp [h])

theorem uninterrupted_cons (h : w.isInterruption = false) :
    uninterrupted (w :: script) = w :: uninterrupted script :=
  List.filter_cons_of_pos (by simp [h])

theorem interruptions_append (front back : List WriteOutcome) :
    interruptions (front ++ back) = interruptions front + interruptions back :=
  List.countP_append

end

/-! ## One line -/

/-- The line goes as far without the interruptions among the `used` entries of
    the script, in as many writes less. -/
structure Offered.Quieted (used : List WriteOutcome) (noisy quiet : Offered) : Prop where
  failure : quiet.failure = noisy.failure
  accepted : quiet.accepted = noisy.accepted
  rest : quiet.rest = uninterrupted noisy.rest
  calls : noisy.calls = quiet.calls + interruptions used

namespace Offered.Quieted

variable {used : List WriteOutcome} {noisy quiet : Offered}

/-- A write that both scripts have is met first. -/
theorem after (h : Quieted used noisy quiet) {w : WriteOutcome} (hw : w.isInterruption = false)
    (bytes : List UInt8) : Quieted (w :: used) (noisy.after bytes) (quiet.after bytes) where
  failure := h.failure
  accepted := congrArg (bytes ++ ·) h.accepted
  rest := h.rest
  calls := by
    have hused : interruptions (w :: used) = interruptions used :=
      List.countP_cons_of_neg (by simp [hw])
    have hcalls := h.calls
    simp only [Offered.after, hused]
    omega

/-- An interruption is met first. -/
theorem after_interruption (h : Quieted used noisy quiet) {w : WriteOutcome}
    (hw : w.isInterruption = true) : Quieted (w :: used) (noisy.after []) quiet where
  failure := h.failure
  accepted := h.accepted
  rest := h.rest
  calls := by
    have hused : interruptions (w :: used) = interruptions used + 1 := List.countP_cons_of_pos hw
    have hcalls := h.calls
    simp only [Offered.after, hused]
    omega

/-- Both lines end at a fault. -/
theorem of_fault {w : WriteOutcome} (hw : w.isInterruption = false)
    (failure : Failure) (script : List WriteOutcome) :
    Quieted [w] ⟨some failure, [], 1, script⟩ ⟨some failure, [], 1, uninterrupted script⟩ where
  failure := rfl
  accepted := rfl
  rest := rfl
  calls := by
    have hused : interruptions [w] = 0 := List.countP_cons_of_neg (by simp [hw])
    rw [hused]

end Offered.Quieted

theorem quieted_offer (script : List WriteOutcome) (bytes : List UInt8) :
    ∃ used, script = used ++ (offer script bytes).rest ∧
      (offer script bytes).Quieted used (offer (uninterrupted script) bytes) := by
  fun_induction offer script bytes with
  | case1 script =>
    refine ⟨[], rfl, ?_⟩
    rw [offer]
    exact ⟨rfl, rfl, rfl, rfl⟩
  | case2 bytes hbytes =>
    refine ⟨[], rfl, ?_⟩
    show Offered.Quieted [] _ (offer [] bytes)
    rw [offer]
    · exact ⟨rfl, rfl, rfl, rfl⟩
    · exact hbytes
  | case3 script bytes hbytes =>
    refine ⟨[.accept 0], rfl, ?_⟩
    rw [uninterrupted_cons rfl, offer, if_pos rfl]
    · exact .of_fault rfl nothingAccepted script
    · exact hbytes
  | case4 most script bytes hbytes hmost ih =>
    obtain ⟨used, hscript, hquieted⟩ := ih
    refine ⟨.accept most :: used, congrArg (.accept most :: ·) hscript, ?_⟩
    rw [uninterrupted_cons rfl, offer, if_neg hmost]
    · exact hquieted.after rfl (bytes.take most)
    · exact hbytes
  -- The two scripts part here: one has the interruption in front, the other has no entry for it.
  | case5 failure script bytes hbytes hkind ih =>
    obtain ⟨used, hscript, hquieted⟩ := ih
    have hw : (WriteOutcome.fail failure).isInterruption = true := by
      simpa [WriteOutcome.isInterruption] using hkind
    refine ⟨.fail failure :: used, congrArg (.fail failure :: ·) hscript, ?_⟩
    rw [uninterrupted_cons_of_interruption hw]
    exact hquieted.after_interruption hw
  | case6 failure script bytes hbytes hkind =>
    have hw : (WriteOutcome.fail failure).isInterruption = false := by
      simpa [WriteOutcome.isInterruption] using hkind
    refine ⟨[.fail failure], rfl, ?_⟩
    rw [uninterrupted_cons hw, offer, if_neg hkind]
    · exact .of_fault hw failure script
    · exact hbytes

namespace Sink

/-! ## One call -/

/-- The two sinks differ in nothing but the interruptions still to come, and the
    writes made for those among the `used` entries of the script. -/
structure Quieted (used : List WriteOutcome) (noisy quiet : Sink) : Prop where
  writes : quiet.writes = uninterrupted noisy.writes
  flushes : quiet.flushes = noisy.flushes
  accepted : quiet.accepted = noisy.accepted
  writeCalls : noisy.writeCalls = quiet.writeCalls + interruptions used
  flushCalls : quiet.flushCalls = noisy.flushCalls

/-- A call ends alike on both sinks, and leaves them as alike as they were. -/
structure QuietedCall (used : List WriteOutcome)
    (noisy quiet : Except FixtureError Unit × Sink) : Prop where
  result : quiet.1 = noisy.1
  sinks : Quieted used noisy.2 quiet.2

variable {used : List WriteOutcome} {noisy quiet : Sink}

theorem Quieted.writeAll (h : Quieted used noisy quiet) (bytes : List UInt8) :
    ∃ more, noisy.writes = more ++ (noisy.writeAll bytes).2.writes ∧
      (quiet.writeAll bytes).1 = (noisy.writeAll bytes).1 ∧
      Quieted (used ++ more) (noisy.writeAll bytes).2 (quiet.writeAll bytes).2 := by
  obtain ⟨more, hscript, hoffer⟩ := quieted_offer noisy.writes bytes
  rw [← h.writes] at hoffer
  refine ⟨more, hscript, hoffer.failure, hoffer.rest, h.flushes, ?_, ?_, h.flushCalls⟩
  · simp only [Sink.writeAll, h.accepted, hoffer.accepted]
  · have hcalls := hoffer.calls
    have hbefore := h.writeCalls
    simp only [Sink.writeAll, interruptions_append]
    omega

/-- A flush that was interrupted is not tried again, so the flushes are the same. -/
theorem Quieted.writeFixture (h : Quieted used noisy quiet) (line : String) :
    ∃ more, noisy.writes = more ++ (noisy.writeFixture line).2.writes ∧
      QuietedCall (used ++ more) (noisy.writeFixture line) (quiet.writeFixture line) := by
  obtain ⟨more, hscript, hresult, hsinks⟩ := h.writeAll (Text.encode line)
  refine ⟨more, ?_⟩
  cases hfailure : (offer noisy.writes (Text.encode line)).failure with
  | some failure =>
    rw [writeFixture_of_cut hfailure, writeFixture_of_cut (hresult.trans hfailure)]
    exact ⟨hscript, rfl, hsinks⟩
  | none =>
    rw [writeFixture_of_whole hfailure, writeFixture_of_whole (hresult.trans hfailure), h.flushes]
    refine ⟨hscript, rfl, ?_⟩
    exact ⟨hsinks.writes, rfl, hsinks.accepted, hsinks.writeCalls,
      congrArg (· + 1) h.flushCalls⟩

/-! ## Many lines -/

theorem Quieted.writeFixtures (h : Quieted used noisy quiet) (lines : List String) :
    List.Forall₂
      (fun call call' => ∃ more, noisy.writes = more ++ call.2.writes ∧
        QuietedCall (used ++ more) call call')
      (noisy.writeFixtures lines) (quiet.writeFixtures lines) := by
  induction lines generalizing used noisy quiet with
  | nil => exact .nil
  | cons line lines ih =>
    obtain ⟨more, hscript, hcall⟩ := h.writeFixture line
    refine .cons ⟨more, hscript, hcall⟩ ((ih hcall.sinks).imp ?_)
    rintro call call' ⟨later, hlater, hcall'⟩
    refine ⟨more ++ later, ?_, ?_⟩
    · rw [hscript, hlater, List.append_assoc]
    · rw [← List.append_assoc]
      exact hcall'

/-- Taking the interruptions out of a script changes no result, no byte and no
    flush. Behind each call, as many writes less were made as there were
    interruptions among the entries of the script met so far. -/
theorem writeFixtures_uninterrupted (sink : Sink) (lines : List String) :
    (sink.writeFixtures lines).length = lines.length ∧
    List.Forall₂
      (fun noisy quiet => quiet.1 = noisy.1 ∧
        quiet.2.accepted = noisy.2.accepted ∧
        quiet.2.flushCalls = noisy.2.flushCalls ∧
        ∃ used, sink.writes = used ++ noisy.2.writes ∧
          noisy.2.writeCalls = quiet.2.writeCalls + interruptions used)
      (sink.writeFixtures lines)
      ({ sink with writes := uninterrupted sink.writes }.writeFixtures lines) := by
  refine ⟨length_writeFixtures sink lines, ?_⟩
  have hstart : Quieted [] sink { sink with writes := uninterrupted sink.writes } :=
    ⟨rfl, rfl, rfl, rfl, rfl⟩
  refine (hstart.writeFixtures lines).imp ?_
  rintro noisy quiet ⟨used, hscript, hcall⟩
  exact ⟨hcall.result, hcall.sinks.accepted, hcall.sinks.flushCalls, used, hscript,
    hcall.sinks.writeCalls⟩

/-- The interruption is met by the second line, because the first one is empty. -/
example : ((writeFixtures { writes := [.fail ⟨.interrupted, none⟩, .accept 1] } ["", "ab"]).map
    fun written => (written.1, written.2.accepted, written.2.writeCalls)) =
    [(.ok (), [], 0), (.ok (), [97, 98], 3)] := by rfl

end Sink

end Fixture
