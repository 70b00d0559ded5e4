-- SUMMARY: Reading a run in chunks of any sizes gives the values of the generated line.
import Fixture.Proofs.Generate
import Fixture.Proofs.Session
import Mathlib.Data.List.Forall2

/-!
# Reading in chunks

A session can ask for the line of the next few values again and again. However
the values are cut into chunks, the chunks make up the whole run as soon as
enough values were asked for, and the lines of the chunks make up its line.
-/

namespace Fixture

namespace Run

variable {σ α : Type} [Run σ α]

/-- The values of a run in chunks of at most these sizes, each taken behind the
    one before it. -/
def chunks : List Nat → σ → List (List α)
  | [], _ => []
  | n :: sizes, s => (take n s).1 :: chunks sizes (take n s).2

theorem flatten_chunks (sizes : List Nat) (s : σ) :
    (chunks sizes s).flatten = (take sizes.sum s).1 := by
  induction sizes generalizing s with
  | nil => rfl
  | cons n sizes ih => rw [chunks, List.flatten_cons, ih, List.sum_cons, take_add]

theorem flatten_chunks_of_sum {sizes : List Nat} {s : σ} (hsum : remaining s ≤ sizes.sum) :
    (chunks sizes s).flatten = values s := by
  rw [flatten_chunks, take_of_remaining_le hsum]
  rfl

end Run

namespace Session

open Run

variable {σ α : Type} [Run σ α] [Display α]

/-- A chunk is asked for by the step that answers with its line. -/
theorem answers_joins (session : Session σ) (sizes : List Nat) :
    (session.steps (sizes.map .join)).map Prod.fst =
      ((chunks sizes session.run).map Line.join).map .line := by
  induction sizes generalizing session with
  | nil => rfl
  | cons n sizes ih =>
    have hnext : (session.step (.join n)).2.run = (take n session.run).2 := session.run_put _
    simp only [List.map_cons, steps, chunks, ih, hnext]
    rfl

/-- The lines of chunks that cover the run, without the empty ones, are the line
    of the run. -/
theorem join_answers_joins {s : σ} {sizes : List Nat} (hsum : remaining s ≤ sizes.sum)
    (htexts : ∀ v : α, display v ≠ "") :
    ∃ texts : List String,
      ((Session.start s).steps (sizes.map .join)).map Prod.fst = texts.map .line ∧
      Line.join (texts.filter (· ≠ "")) = Line.join (values s) := by
  refine ⟨_, answers_joins _ sizes, ?_⟩
  rw [Line.join_filter_join fun _ _ v _ => htexts v]
  show Line.join (chunks sizes s).flatten = _
  rw [flatten_chunks_of_sum hsum]

end Session

/-! ## Generated lines in chunks -/

namespace Generate

open Run Line Numeral

/-- The decimal and the hexadecimal line of the keys have the same values. -/
theorem forall₂_pieces_keys {count : Int} (hpos : 0 < count) :
    List.Forall₂ (fun piece other => ∃ n : Nat, IsDecimal n piece ∧ IsHex n other)
      (pieces (join ((List.range (count + 1).toNat).map KeyRun.key)))
      (pieces (join ((List.range (count + 1).toNat).map fun i => hex (KeyRun.key i)))) := by
  have hdecimal (i : Nat) : ',' ∉ (display (KeyRun.key i)).toList :=
    comma_not_mem_decimal (KeyRun.key i : Int)
  have hhex (i : Nat) : ',' ∉ (display (hex (KeyRun.key i))).toList :=
    comma_not_mem_hex (KeyRun.key i)
  rw [pieces_join_range hpos hdecimal, pieces_join_range hpos hhex, List.forall₂_map_left_iff,
    List.forall₂_map_right_iff, List.forall₂_same]
  intro i _
  exact ⟨KeyRun.key i, isDecimal_decimal (KeyRun.key i : Int), isHex_hex (KeyRun.key i)⟩

/-- Chunks that cover a run give the line of its generator, and for keys a line
    with the same values in decimal. -/
theorem lines_in_chunks {count : Int} (hcount : count ≠ 0) (start : Int) {sizes : List Nat}
    (hsum : max (count + 1) 0 ≤ (sizes.sum : Int)) :
    (∃ texts : List String,
      ((Session.start (Ascending.ofCount count start)).steps (sizes.map .join)).map Prod.fst =
        texts.map .line ∧
      (highestValues count start).line = .ok (join (texts.filter (· ≠ "")))) ∧
    ∃ (texts : List String) (line : String),
      ((Session.start (KeyRun.ofCount count)).steps (sizes.map .join)).map Prod.fst =
        texts.map .line ∧
      (privateKeys count).line = .ok line ∧
      let text := join (texts.filter (· ≠ ""))
      (count < 0 → text = "" ∧ line = "") ∧
      (0 < count →
        List.Forall₂ (fun piece other => ∃ n : Nat, IsDecimal n piece ∧ IsHex n other)
          (pieces text) (pieces line)) := by
  constructor
  · have hleft : remaining (Ascending.ofCount count start) ≤ sizes.sum := by
      rw [Ascending.remaining_ofCount]
      omega
    obtain ⟨texts, hanswers, htext⟩ := Session.join_answers_joins hleft decimal_ne_empty
    refine ⟨texts, hanswers, ?_⟩
    rw [htext, Ascending.values_ofCount, highestValues_of_ne_zero start hcount]
  · have hleft : remaining (KeyRun.ofCount count) ≤ sizes.sum := by
      rw [KeyRun.remaining_ofCount]
      omega
    obtain ⟨texts, hanswers, htext⟩ :=
      Session.join_answers_joins hleft fun key => decimal_ne_empty (key : Int)
    refine ⟨texts, _, hanswers, privateKeys_of_ne_zero hcount, ?_, ?_⟩
    · intro hneg
      rw [htext, KeyRun.values_ofCount, range_of_neg hneg]
      exact ⟨join_nil, join_nil⟩
    · intro hpos
      rw [htext, KeyRun.values_ofCount]
      exact forall₂_pieces_keys hpos

/-- The middle chunk is empty, and the last one asks for more than is left. -/
theorem lines_in_chunks_across_zero :
    (2 : Int) ≠ 0 ∧ max ((2 : Int) + 1) 0 ≤ (([1, 0, 5] : List Nat).sum : Int) ∧
      ((Session.start (Ascending.ofCount 2 (-1))).steps ([1, 0, 5].map .join)).map Prod.fst =
        ["-1", "", "0,1"].map .line ∧
      (highestValues 2 (-1)).line = .ok (join ["-1", "0,1"]) := by
  have hcount : (2 : Int) ≠ 0 := by decide
  have hsum : max ((2 : Int) + 1) 0 ≤ (([1, 0, 5] : List Nat).sum : Int) := by decide
  have hsteps :
      ((Session.start (Ascending.ofCount 2 (-1))).steps ([1, 0, 5].map .join)).map Prod.fst =
        ["-1", "", "0,1"].map .line := by decide
  refine ⟨hcount, hsum, hsteps, ?_⟩
  obtain ⟨⟨texts, hanswers, hline⟩, -⟩ := lines_in_chunks hcount (-1) hsum
  have hinj : Function.Injective (Answer.line : String → Answer Int) :=
    fun _ _ h => Answer.line.inj h
  obtain rfl := List.map_injective_iff.mpr hinj (hanswers.symm.trans hsteps)
  exact hline

end Generate

end Fixture
