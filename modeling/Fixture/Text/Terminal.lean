-- SUMMARY: What a terminal shows of a text once control characters and sequences are taken out.

/-!
# Terminals

Controls steer a terminal and are not shown, nor are the sequences that an
escape character begins. An escape sequence is any number of intermediates and
one more character. A control sequence, which begins with `ESC [`, ends with a
final character. A string begins with `ESC` and one of `]`, `P`, `X`, `^` and
`_`, and goes on to an end of its own. A character that has no place in a
sequence is hidden and does not end it. An escape character begins another
sequence anywhere.

A terminal acts on white space even inside an escape or control sequence. Such
white space is shown, and so is the plain text behind it.
-/

namespace Fixture.Text

namespace Terminal

/-! ## Characters -/

def isIntermediate (c : Char) : Bool := ' ' ≤ c && c ≤ '/'

def isParameter (c : Char) : Bool := '0' ≤ c && c ≤ '?'

/-- The parameters that a sequence of private use begins with. -/
def isPrivate (c : Char) : Bool := '<' ≤ c && c ≤ '?'

def isFinal (c : Char) : Bool := '@' ≤ c && c ≤ '~'

/-- The controls that are white space. -/
def isSpacing (c : Char) : Bool := c == '\t' || c == '\n' || c == '\x0c' || c == '\r'

/-- A character that is shown outside of sequences. -/
def isPlain (c : Char) : Bool := (' ' ≤ c && c != '\x7f') || isSpacing c

/-! ## Modes -/

/-- Where in a sequence a terminal is. -/
inductive Mode where
  /-- Outside of any sequence. -/
  | ground
  /-- Behind an escape character. -/
  | escape
  /-- In an escape sequence, behind an intermediate. -/
  | escapeIntermediate
  | control
  /-- In a device control string, in front of its parameters. -/
  | device
  | deviceParameters
  | deviceIntermediate
  /-- In a string that its encoded form ends, with a byte 9C. -/
  | body
  /-- In an operating system command, a string that a bell ends. -/
  | command
deriving DecidableEq, Repr

namespace Mode

/-- White space in this mode is acted on. -/
def admitsSpacing : Mode → Bool
  | .ground | .escape | .escapeIntermediate | .control => true
  | _ => false

/-- The mode behind an escape character and `c`. -/
def ofEscape (c : Char) : Mode :=
  if c = '[' then .control
  else if c = ']' then .command
  else if c = 'P' then .device
  else if c = 'X' ∨ c = '^' ∨ c = '_' then .body
  else if isIntermediate c then .escapeIntermediate
  else if isParameter c || isFinal c then .ground
  else .escape

/-- The mode behind a character that is not shown. Two controls, cancel and
    substitute, end any sequence, and an escape character begins another. -/
def next (m : Mode) (c : Char) : Mode :=
  if c = '\x18' ∨ c = '\x1a' then .ground
  else if c = '\x1b' then .escape
  else match m with
    | .ground => .ground
    | .escape => ofEscape c
    | .escapeIntermediate => if isParameter c || isFinal c then .ground else .escapeIntermediate
    | .control => if isFinal c then .ground else .control
    | .device =>
      if isIntermediate c then .deviceIntermediate
      else if isParameter c then .deviceParameters
      else if isFinal c then .body
      else .device
    | .deviceParameters =>
      if isIntermediate c then .deviceIntermediate
      else if isPrivate c || isFinal c then .body
      else .deviceParameters
    | .deviceIntermediate => if isParameter c || isFinal c then .body else .deviceIntermediate
    | .body => if (String.utf8EncodeChar c).contains 0x9C then .ground else .body
    | .command => if c = '\x07' then .ground else .command

end Mode

end Terminal

/-! ## Terminals -/

/-- A terminal between two characters of a text. -/
structure Terminal where
  mode : Terminal.Mode := .ground
  /-- The last character was shown. Plain text behind it is shown in any mode. -/
  showing : Bool := false
deriving DecidableEq, Repr

namespace Terminal

def shows (t : Terminal) (c : Char) : Bool :=
  isPlain c && (t.showing || t.mode == .ground || (isSpacing c && t.mode.admitsSpacing))

/-- Only a character that is not shown moves on in a sequence. A shown character
    beyond ASCII ends it. -/
def step (t : Terminal) (c : Char) : Terminal :=
  if t.shows c then ⟨if c ≤ '~' then t.mode else .ground, true⟩ else ⟨t.mode.next c, false⟩

/-- The terminal behind a text. -/
def run (t : Terminal) (cs : List Char) : Terminal := cs.foldl step t

/-- The characters of a text that are shown. -/
def visible (t : Terminal) : List Char → List Char
  | [] => []
  | c :: cs => if t.shows c then c :: (t.step c).visible cs else (t.step c).visible cs

/-- Plain text is shown as it is. -/
theorem visible_of_isPlain {t : Terminal} (ht : t.mode = .ground) {cs : List Char}
    (h : ∀ c ∈ cs, isPlain c = true) : t.visible cs = cs := by
  induction cs generalizing t with
  | nil => rfl
  | cons c cs ih =>
    have hc : t.shows c = true := by simp [shows, ht, h c (List.mem_cons_self ..)]
    have hm : (t.step c).mode = .ground := by simp [step, hc, ht]
    rw [visible, if_pos hc, ih hm fun d hd => h d (List.mem_cons_of_mem _ hd)]

end Terminal

end Fixture.Text
