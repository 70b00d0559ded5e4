-- SUMMARY: Integers on the command line, behind a separator and without one.
import Fixture.Proofs.Command.Form
import Fixture.Proofs.Command.Outcome

/-!
# Integers on the command line

Every text of an integer is a value behind a separator. Without one its hyphen
has to be the sign of digits: a blank or an underscore behind a negative number
turns it into a flag. The numerals of a printed line have no such hyphen, so that
a line can be taken up again at any of its pieces.
-/

namespace Fixture

/-! ## With and without a separator -/

/-- An integer taken for a flag ends the run of a command. -/
theorem Form.run_of_integer_flag (form : Form) (env : Environment) {args : List Argument}
    (hlength : args.length = form.task.operands.length)
    (hintegers : ∀ a ∈ args, ∃ v, a.integer? = some v)
    (hflag : ∃ a ∈ args, a.head? = some Argument.hyphen ∧ ¬ a.IsMinusDigits) :
    ∃ d, d.isDigit = true ∧ form.run env args =
      ⟨.usage, "", [], "error: unexpected argument '-" ++ String.singleton d ++ "' found"⟩ := by
  obtain ⟨b, hb, hscan⟩ :=
    Reading.scan_of_integer_flag (r := Reading.start form) rfl rfl hlength.le hintegers hflag
  have hread : form.read args = _ := hscan
  have hdigit : (Text.asciiChar b).isDigit = true := (Argument.isDigit_asciiChar b).trans hb
  refine ⟨_, hdigit, ?_⟩
  rw [run_eq, hread]
  simp only [Flag.report_unexpectedArgument_of_isDigit hdigit]

namespace Program

/-- Texts of integers give the same run with a separator in front and without
    one, unless a hyphen has more than digits behind it. That one is refused as a
    flag when there is no separator. -/
theorem run_separator (task : Task) (env : Environment) (texts : List String)
    (hlength : texts.length = task.operands.length)
    (hintegers : ∀ s ∈ texts, ∃ v, Numeral.readInt s = .ok v) :
    let args := texts.map Argument.ofString
    let bare := (single task).run env args
    let literal := (single task).run env (Argument.ofString "--" :: args)
    literal.status.code ≠ 2 ∧
    ((∀ a ∈ args, a.head? = some Argument.hyphen → a.IsMinusDigits) → bare = literal) ∧
    ((∃ a ∈ args, a.head? = some Argument.hyphen ∧ ¬ a.IsMinusDigits) →
      ∃ d, d.isDigit = true ∧ bare =
        ⟨.usage, "", [], "error: unexpected argument '-" ++ String.singleton d ++ "' found"⟩) := by
  intro args bare literal
  have hargs : args.length = task.operands.length := (List.length_map _).trans hlength
  have hread : ∀ a ∈ args, ∃ v, a.integer? = some v := by
    intro a ha
    obtain ⟨s, hs, rfl⟩ := List.mem_map.mp ha
    obtain ⟨v, hv⟩ := hintegers s hs
    exact ⟨v, Argument.integer?_eq_some_iff.mpr ⟨s, rfl, hv⟩⟩
  obtain ⟨values, hvalues⟩ := Argument.exists_values_iff.mpr hread
  obtain ⟨request, hrequest, hrun⟩ :=
    Form.run_of_accepts ⟨task, true⟩ (Task.accepts_behind_separator hargs hvalues)
  have hliteral : literal = request.run env := hrun env
  refine ⟨?_, ?_, ?_⟩
  · rw [hliteral, Request.status_run]
    split <;> decide
  · intro hsigns
    obtain ⟨request', hrequest', hrun'⟩ :=
      Form.run_of_accepts ⟨task, true⟩ (Task.accepts_of_integers hargs hvalues hsigns)
    obtain rfl : request = request' := Option.some.inj (hrequest.symm.trans hrequest')
    exact (hrun' env).trans hliteral.symm
  · exact Form.run_of_integer_flag ⟨task, true⟩ env hargs hread

/-- An underscore is enough to make a flag, behind a good first value too. -/
theorem run_separator_of_underscore :
    let env : Environment := ⟨none, .captured, "<time>"⟩
    let args := ["3", "-1_0"].map Argument.ofString
    let bare := (single .highest).run env args
    let literal := (single .highest).run env (Argument.ofString "--" :: args)
    args.length = Task.highest.operands.length ∧
    (∀ s ∈ ["3", "-1_0"], ∃ v, Numeral.readInt s = .ok v) ∧
    literal.status.code ≠ 2 ∧
    ∃ d, d.isDigit = true ∧ bare =
      ⟨.usage, "", [], "error: unexpected argument '-" ++ String.singleton d ++ "' found"⟩ := by
  intro env args bare literal
  have hintegers : ∀ s ∈ ["3", "-1_0"], ∃ v, Numeral.readInt s = .ok v := by
    simp only [List.forall_mem_cons]
    exact ⟨⟨3, by decide⟩, ⟨-10, by decide⟩, by simp⟩
  obtain ⟨hliteral, -, hbare⟩ := run_separator .highest env ["3", "-1_0"] rfl hintegers
  refine ⟨rfl, hintegers, hliteral, hbare ⟨Argument.ofString "-1_0", by decide, by decide, ?_⟩⟩
  rintro ⟨digits, heq, -, hdigits⟩
  obtain rfl := List.tail_eq_of_cons_eq heq
  exact absurd (hdigits 0x5F (by decide)) (by decide)

/-- The blank behind a negative number is part of an integer, but not of a value. -/
theorem run_ne_run_separator_of_blank :
    let env : Environment := ⟨none, .captured, "<time>"⟩
    let bare := (single .keys).run env [Argument.ofString "-5 "]
    let literal := (single .keys).run env [Argument.ofString "--", Argument.ofString "-5 "]
    Numeral.readInt "-5 " = .ok (-5) ∧
    bare = ⟨.usage, "", [], "error: unexpected argument '-5' found"⟩ ∧
    literal =
      ⟨.success, "", ["<time>  WARN negative count, emitting no keys count=-5\n"], ""⟩ := by
  decide +kernel

end Program

/-! ## Printed integers -/

theorem Argument.map_integer?_decimal (values : List Int) :
    (values.map fun n => ofString (Numeral.decimal n)).map integer? = values.map some := by
  rw [List.map_map]
  exact List.map_congr_left fun n _ => integer?_decimal n

/-- Numerals for all operands are accepted as they are. -/
theorem Task.accepts_decimals (task : Task) (values : List Int)
    (hlength : values.length = task.operands.length) :
    task.Accepts (values.map fun n => Argument.ofString (Numeral.decimal n)) values := by
  apply Task.accepts_of_integers ((List.length_map _).trans hlength)
    (Argument.map_integer?_decimal values)
  intro a ha hhead
  obtain ⟨n, -, rfl⟩ := List.mem_map.mp ha
  exact Argument.isMinusDigits_decimal hhead

namespace Program

open Argument (ofString)
open Numeral (decimal)

theorem run_highest_decimals {env : Environment} (hcaptured : env.output = .captured)
    {count : Int} (hpos : 0 < count) (start : Int) {line : String}
    (hline : (Generate.highestValues count start).line = .ok line) :
    let o := (single .highest).run env [ofString (decimal count), ofString (decimal start)]
    o.status.code = 0 ∧ o.stdout = line := by
  intro o
  obtain ⟨request, hrequest, hrun⟩ := Form.run_of_accepts ⟨.highest, true⟩
    (Task.accepts_decimals .highest [count, start] rfl)
  obtain rfl : .highest count start = request := Option.some.inj hrequest
  have ho : o = (Request.highest count start).run env := hrun env
  have hsucceeds : ¬ (Request.highest count start).Fails env.output := by
    rintro (hzero | ⟨-, hfull⟩)
    · exact absurd hzero (Int.ne_of_gt hpos)
    · exact hfull hcaptured
  rw [ho]
  refine ⟨?_, ?_⟩
  · rw [Request.status_run, if_neg hsucceeds]
    rfl
  · rw [Request.stdout_run_of_captured hcaptured, Request.generate, hline]
    rfl

/-- A printed line goes on from any of its pieces but the last: the run that starts
    at the piece, with the count that is left, prints the line from there to its end. -/
theorem run_from_piece {env env' : Environment} (hcaptured : env.output = .captured)
    (hcaptured' : env'.output = .captured) (count start : Int) (k : Nat) (hk : (k : Int) < count) :
    let first := (single .highest).run env [ofString (decimal count), ofString (decimal start)]
    ∃ piece, (Line.pieces first.stdout)[k]? = some piece ∧
      let again := (single .highest).run env' [ofString (decimal (count - k)), ofString piece]
      again.status.code = 0 ∧
      first.stdout =
        String.join (((Line.pieces first.stdout).take k).map (· ++ ",")) ++ again.stdout := by
  obtain ⟨line, rest, hline, hrest, hpiece, hsuffix⟩ := Generate.highestValues_from_piece hk start
  obtain ⟨-, hfirst⟩ := run_highest_decimals hcaptured (by omega : 0 < count) start hline
  obtain ⟨hcode, hagain⟩ :=
    run_highest_decimals hcaptured' (by omega : 0 < count - k) (start + k) hrest
  intro first
  refine ⟨decimal (start + k), ?_, hcode, ?_⟩
  · rw [hfirst, hpiece]
  · rw [hfirst, hagain, ← hsuffix]

/-- From a negative piece over zero. -/
theorem run_from_piece_across_zero :
    let env : Environment := ⟨none, .captured, "<time>"⟩
    let env' : Environment := ⟨some "trace", .captured, "<time>"⟩
    let first := (single .highest).run env [ofString (decimal 3), ofString (decimal (-2))]
    env.output = .captured ∧ env'.output = .captured ∧ ((1 : Nat) : Int) < 3 ∧
    ∃ piece, (Line.pieces first.stdout)[1]? = some piece ∧
      let again := (single .highest).run env' [ofString (decimal (3 - (1 : Nat))), ofString piece]
      again.status.code = 0 ∧
      first.stdout =
        String.join (((Line.pieces first.stdout).take 1).map (· ++ ",")) ++ again.stdout :=
  ⟨rfl, rfl, by decide, run_from_piece rfl rfl 3 (-2) 1 (by decide)⟩

end Program

end Fixture
