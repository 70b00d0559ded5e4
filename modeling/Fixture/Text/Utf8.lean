-- SUMMARY: Bytes and text: encoding, strict decoding, and decoding that marks ill-formed bytes.

/-!
# Bytes of a text

`encode` gives the UTF-8 bytes of a text. There are two ways back. `decode?`
accepts well-formed bytes only. `decodeLossy` accepts all bytes: it cuts them
into characters and ill-formed pieces, and shows each piece as U+FFFD. A piece
is the longest start of a character that the bytes allow, or a single byte that
starts no character.
-/

namespace Fixture.Text

def encode (s : String) : List UInt8 := s.toUTF8.data.toList

def decode? (bytes : List UInt8) : Option String := String.fromUTF8? ⟨bytes.toArray⟩

theorem decode?_encode (s : String) : decode? (encode s) = some s := by
  simp [decode?, encode, String.fromUTF8?, String.fromUTF8, s.isValidUTF8]

/-! ## Characters and ill-formed pieces -/

/-- What the first byte of a character announces: the bits it carries, how many
    bytes follow it, and the range of the first of those. -/
structure Lead where
  bits : Nat
  more : Nat
  low : UInt8 := 0x80
  high : UInt8 := 0xBF

/-- The narrowed ranges exclude overlong forms, surrogates, and code points
    above U+10FFFF. -/
def Lead.ofByte? (b : UInt8) : Option Lead :=
  if b < 0x80 then some { bits := b.toNat, more := 0 }
  else if b < 0xC2 then none
  else if b < 0xE0 then some { bits := b.toNat - 0xC0, more := 1 }
  else if b < 0xF0 then
    some { bits := b.toNat - 0xE0
           more := 2
           low := if b = 0xE0 then 0xA0 else 0x80
           high := if b = 0xED then 0x9F else 0xBF }
  else if b < 0xF5 then
    some { bits := b.toNat - 0xF0
           more := 3
           low := if b = 0xF0 then 0x90 else 0x80
           high := if b = 0xF4 then 0x8F else 0xBF }
  else none

/-- Read `n` more bytes of a character whose first bytes gave `code`. The next
    byte lies between `low` and `high`. The first byte out of range is left. -/
def readTail : (n : Nat) → (low high : UInt8) → (code : Nat) → List UInt8 →
    Option Char × List UInt8
  | 0, _, _, code, bytes => (some (Char.ofNat code), bytes)
  | _ + 1, _, _, _, [] => (none, [])
  | n + 1, low, high, code, b :: bytes =>
    if low ≤ b ∧ b ≤ high then readTail n 0x80 0xBF (code * 64 + (b.toNat - 0x80)) bytes
    else (none, b :: bytes)

theorem length_readTail_le (n : Nat) (low high : UInt8) (code : Nat) (bytes : List UInt8) :
    (readTail n low high code bytes).2.length ≤ bytes.length := by
  fun_induction readTail n low high code bytes with
  | case1 => simp
  | case2 => simp
  | case3 _ _ _ _ _ _ _ ih => simp only [List.length_cons]; omega
  | case4 => simp

/-- The characters of a byte string, with `none` for each ill-formed piece. -/
def characters : List UInt8 → List (Option Char)
  | [] => []
  | b :: bytes =>
    match Lead.ofByte? b with
    | none => none :: characters bytes
    | some lead =>
      let read := readTail lead.more lead.low lead.high lead.bits bytes
      read.1 :: characters read.2
termination_by bytes => bytes.length
decreasing_by
  · simp
  · have := length_readTail_le lead.more lead.low lead.high lead.bits bytes
    simp only [List.length_cons]
    omega

/-- The text of a byte string, each ill-formed piece shown as U+FFFD. -/
def decodeLossy (bytes : List UInt8) : String :=
  String.ofList ((characters bytes).map (·.getD '\uFFFD'))

end Fixture.Text
