-- SUMMARY: Filters on events, read from a comma-separated list of directives.
import Fixture.Event
import Fixture.Numeral
import Fixture.Text.Alphanumeric
import Fixture.Text.Blank

/-!
# Filters

A directive gives a threshold to every target that begins with its own target.
Of several such directives the one with the longest target decides, and of two
with the same target the later one. An event that no directive covers does not
pass.

The text of a filter is a list of directives between commas. A directive is a
threshold for every target, a target with its threshold behind an equals sign, or
a target with nothing behind it, which lets everything pass. A directive begins
with a letter, a digit, a hyphen, a colon or an underscore. Blanks may stand in
front of one that has no equals sign, and belong to its target.

An opening bracket is the start of a condition on spans or fields. Filters with
such conditions are not covered: a directive with an opening bracket in it is not
read, whether the condition is well-formed or not.
-/

namespace Fixture

/-! ## Thresholds -/

inductive Threshold where
  | off
  | upTo (level : Level)
deriving DecidableEq, Repr

namespace Threshold

def admits : Threshold → Level → Bool
  | .off, _ => false
  | .upTo most, level => level.rank ≤ most.rank

def ofPlace? : Nat → Option Threshold
  | 0 => some .off
  | 1 => some (.upTo .error)
  | 2 => some (.upTo .warn)
  | 3 => some (.upTo .info)
  | 4 => some (.upTo .debug)
  | 5 => some (.upTo .trace)
  | _ => none

/-- A word in any letter case. -/
def ofWord? (word : List Char) : Option Threshold :=
  match String.ofList (word.map Char.toLower) with
  | "off" => some .off
  | "error" => some (.upTo .error)
  | "warn" => some (.upTo .warn)
  | "info" => some (.upTo .info)
  | "debug" => some (.upTo .debug)
  | "trace" => some (.upTo .trace)
  | _ => none

/-- Digits, possibly behind a plus. Zeros in front do not count. -/
def ofDigits? (text : List Char) : Option Threshold :=
  let digits := if text.head? = some '+' then text.tail else text
  if digits ≠ [] ∧ digits.all Char.isDigit then ofPlace? (Numeral.value 10 digits) else none

/-- A threshold is a word or its place from 0 to 5. -/
def parse? (text : List Char) : Option Threshold := (ofWord? text).or (ofDigits? text)

end Threshold

/-! ## Directives -/

structure Directive where
  target : List Char
  threshold : Threshold
deriving DecidableEq, Repr

namespace Directive

/-- The directive speaks about `target`. -/
def covers (d : Directive) (target : List Char) : Bool := d.target.isPrefixOf target

/-- A character that a directive may begin with. -/
def isOpening (c : Char) : Bool := Text.isAlphanumeric c || c == '-' || c == ':' || c == '_'

/-- A directive with no equals sign. -/
def ofWord (text : List Char) : Directive :=
  match Threshold.parse? text with
  | some threshold => ⟨[], threshold⟩
  | none => ⟨text, .upTo .trace⟩

/-- A target and what stands behind its equals sign. -/
def ofPair? (target threshold : List Char) : Option Directive :=
  if threshold = [] then some ⟨target, .upTo .trace⟩
  else (Threshold.parse? threshold).map (⟨target, ·⟩)

def parse? (text : List Char) : Option Directive :=
  let (target, rest) := text.span (· != '=')
  if '[' ∈ text then none
  else
    match rest with
    | [] => if (Text.trimStart text).head?.any isOpening then some (ofWord text) else none
    | _ :: threshold => if text.head?.any isOpening then ofPair? target threshold else none

end Directive

/-! ## Filters -/

structure Filter where
  directives : List Directive
deriving DecidableEq, Repr

namespace Filter

/-- Of a directive found so far and a later one that also covers the target,
    the one with the longer target. The later one wins a tie. -/
def longer (found : Option Directive) (d : Directive) : Directive :=
  match found with
  | some e => if d.target.length < e.target.length then e else d
  | none => d

/-- The directive that decides about a target. -/
def decisive? (f : Filter) (target : List Char) : Option Directive :=
  (f.directives.filter (·.covers target)).foldl (fun found d => some (longer found d)) none

def passes (f : Filter) (e : Event) : Bool :=
  match f.decisive? e.target.toList with
  | some d => d.threshold.admits e.level
  | none => false

/-- The filter that holds without any text. -/
def default : Filter := ⟨[⟨[], .upTo .warn⟩]⟩

/-- The filter of a text with no directives. -/
def empty : Filter := ⟨[⟨[], .upTo .error⟩]⟩

/-- Read a filter. Nothing between two commas is no directive. -/
def parse? (text : String) : Option Filter :=
  match (text.toList.splitOn ',').filter (· ≠ []) with
  | [] => some empty
  | parts => (parts.mapM Directive.parse?).map Filter.mk

/-- The filter of a text that may be absent. A text that is no filter counts as
    absent. -/
def ofText? (text : Option String) : Filter := (text.bind parse?).getD default

end Filter

end Fixture
