-- SUMMARY: Bytes below 0x80 are characters of their own.
import Fixture.Text.Utf8

/-!
# Bytes of ASCII texts

A byte below 0x80 is the encoding of the character with its number, so a string
of such bytes is well-formed, and its characters are known one by one. In any
text such a byte is a character of its own, and no part of a longer one.
-/

namespace Fixture.Text

/-- The character that a byte below 0x80 encodes. -/
def asciiChar (b : UInt8) : Char := Char.ofNat b.toNat

theorem toNat_asciiChar (b : UInt8) : (asciiChar b).toNat = b.toNat := by
  have hvalid : b.toNat.isValidChar := Or.inl (by have := b.toNat_lt; omega)
  rw [asciiChar, Char.ofNat, dif_pos hvalid]
  rfl

theorem utf8EncodeChar_asciiChar {b : UInt8} (h : b < 0x80) :
    String.utf8EncodeChar (asciiChar b) = [b] := by
  have hlow : b.toNat ≤ 127 := by
    have : b.toNat < 0x80 := h
    omega
  have hval : (asciiChar b).val.toNat = b.toNat := toNat_asciiChar b
  simp [String.utf8EncodeChar, hval, hlow]

theorem asciiChar_ofNat {c : Char} (h : c.toNat < 128) : asciiChar (UInt8.ofNat c.toNat) = c := by
  have hmod : c.toNat % 2 ^ 8 = c.toNat := Nat.mod_eq_of_lt (by omega)
  rw [asciiChar, UInt8.toNat_ofNat', hmod, Char.ofNat_toNat]

theorem encode_injective : Function.Injective encode := by
  intro s t h
  have hdecode := decode?_encode s
  rw [h, decode?_encode] at hdecode
  exact (Option.some.inj hdecode).symm

theorem encode_ofList (cs : List Char) :
    encode (String.ofList cs) = cs.flatMap String.utf8EncodeChar := by
  simp [encode, List.utf8Encode]

theorem encode_cons_of_ascii {b : UInt8} (h : b < 0x80) (cs : List Char) :
    encode (String.ofList (asciiChar b :: cs)) = b :: encode (String.ofList cs) := by
  rw [encode_ofList, encode_ofList, List.flatMap_cons, utf8EncodeChar_asciiChar h]
  rfl

theorem decode?_of_ascii {bytes : List UInt8} (h : ∀ b ∈ bytes, b < 0x80) :
    decode? bytes = some (String.ofList (bytes.map asciiChar)) := by
  have hencode : encode (String.ofList (bytes.map asciiChar)) = bytes := by
    induction bytes with
    | nil => rfl
    | cons b bytes ih =>
      rw [List.map_cons, encode_cons_of_ascii (h b List.mem_cons_self),
        ih fun c hc => h c (List.mem_cons_of_mem b hc)]
  rw [← hencode, decode?_encode, hencode]

theorem encode_of_decode? {bytes : List UInt8} {s : String} (h : decode? bytes = some s) :
    encode s = bytes := by
  simp only [decode?, String.fromUTF8?] at h
  split at h
  · obtain rfl := Option.some.inj h
    rfl
  · contradiction

/-! ## First characters -/

/-- The first byte of a longer encoding is not below 0x80. -/
theorem eq_asciiChar_of_utf8EncodeChar {c : Char} {b : UInt8} {bytes : List UInt8}
    (h : String.utf8EncodeChar c = b :: bytes) (hb : b < 0x80) : c = asciiChar b ∧ bytes = [] := by
  have hlow : b.toNat < 128 := hb
  simp only [String.utf8EncodeChar] at h
  split at h
  · rename_i hascii
    obtain ⟨rfl, rfl⟩ := List.cons.inj h
    exact ⟨(asciiChar_ofNat (Nat.lt_succ_of_le hascii)).symm, rfl⟩
  · have hhigh : 128 ≤ b.toNat := by
      split at h
      · rw [← (List.cons.inj h).1, UInt8.toNat_ofNat']
        omega
      · split at h <;> rw [← (List.cons.inj h).1, UInt8.toNat_ofNat'] <;> omega
    omega

/-- A text begins with the character of its first byte, when that is below 0x80. -/
theorem exists_toList_of_encode {s : String} {b : UInt8} {bytes : List UInt8}
    (h : encode s = b :: bytes) (hb : b < 0x80) :
    ∃ cs, s.toList = asciiChar b :: cs ∧ encode (String.ofList cs) = bytes := by
  rw [← String.ofList_toList (s := s), encode_ofList] at h
  cases hs : s.toList with
  | nil => simp [hs] at h
  | cons c cs =>
    rw [hs, List.flatMap_cons] at h
    obtain ⟨first, more, hfirst⟩ := List.exists_cons_of_ne_nil (@String.utf8EncodeChar_ne_nil c)
    rw [hfirst] at h
    obtain ⟨rfl, hbytes⟩ := List.cons.inj h
    obtain ⟨rfl, rfl⟩ := eq_asciiChar_of_utf8EncodeChar hfirst hb
    exact ⟨cs, rfl, (encode_ofList cs).trans hbytes⟩

end Fixture.Text
