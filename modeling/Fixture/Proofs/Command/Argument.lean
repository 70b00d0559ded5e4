-- SUMMARY: Which arguments are integers, and which of them have the shape of a negative number.
import Fixture.Command.Argument
import Fixture.Proofs.Numeral.Reader
import Fixture.Proofs.Text.Utf8
import Mathlib.Data.List.TakeDrop
import Mathlib.Data.List.TakeWhile

/-!
# Arguments as integers

The shape of a negative number is wider than the integers: it has room for a
point and an exponent. An integer has that shape when it is a hyphen and digits,
and then only.
-/

namespace Fixture

namespace Argument

open Text (asciiChar)

/-- The integer that the text of an argument is. -/
def integer? (a : Argument) : Option Int :=
  (Text.decode? a).bind fun text => (Numeral.readInt text).toOption

/-- A hyphen and one or more digits. -/
def IsMinusDigits (a : Argument) : Prop :=
  ∃ digits : List UInt8, a = hyphen :: digits ∧ digits ≠ [] ∧ ∀ b ∈ digits, isDigit b = true

/-- A flag for the version, with or without a value, or a group that begins with
    its letter. -/
def AsksVersion (a : Argument) : Prop :=
  ofString "-V" <+: a ∨ a = ofString "--version" ∨ ofString "--version=" <+: a

instance (a : Argument) : Decidable a.AsksVersion :=
  inferInstanceAs (Decidable (_ ∨ _ ∨ _))

/-! ## Bytes of numbers -/

/-- A byte that a number with no sign may have. -/
def isNumeric (b : UInt8) : Bool := isDigit b || b == 0x2E || b == 0x65 || b == 0x45

theorem isNumeric_of_isDigit {b : UInt8} (h : isDigit b = true) : isNumeric b = true := by
  simp [isNumeric, h]

theorem isNumeric_of_dropWhile {bytes : List UInt8}
    (h : ∀ b ∈ bytes.dropWhile isDigit, isNumeric b = true) : ∀ b ∈ bytes, isNumeric b = true := by
  intro b hb
  rw [← List.takeWhile_append_dropWhile (p := isDigit) (l := bytes)] at hb
  rcases List.mem_append.mp hb with hfront | hback
  · exact isNumeric_of_isDigit (List.mem_takeWhile_imp hfront)
  · exact h b hback

theorem isNumeric_of_isExponent {bytes : List UInt8} (h : isExponent bytes = true) :
    ∀ b ∈ bytes, isNumeric b = true := by
  cases bytes with
  | nil => simp
  | cons e digits =>
    obtain ⟨⟨hletter, -⟩, hdigits⟩ : ((e = 0x65 ∨ e = 0x45) ∧ digits ≠ []) ∧
        ∀ b ∈ digits, isDigit b = true := by
      simpa [isExponent] using h
    refine List.forall_mem_cons.mpr ⟨?_, fun b hb => isNumeric_of_isDigit (hdigits b hb)⟩
    rcases hletter with rfl | rfl <;> rfl

theorem isNumeric_of_isFraction {bytes : List UInt8} (h : isFraction bytes = true) :
    ∀ b ∈ bytes, isNumeric b = true := by
  cases bytes with
  | nil => simp
  | cons b rest =>
    simp only [isFraction] at h
    split at h
    · rename_i hpoint
      refine List.forall_mem_cons.mpr ⟨by simp [isNumeric, hpoint], ?_⟩
      exact isNumeric_of_dropWhile (isNumeric_of_isExponent h)
    · exact isNumeric_of_isExponent h

theorem isNumeric_of_isUnsigned {bytes : List UInt8} (h : isUnsigned bytes = true) :
    ∀ b ∈ bytes, isNumeric b = true := by
  cases bytes with
  | nil => simp
  | cons b rest =>
    obtain ⟨hdigit, hfraction⟩ : isDigit b = true ∧ isFraction (rest.dropWhile isDigit) = true := by
      simpa [isUnsigned] using h
    refine List.forall_mem_cons.mpr ⟨isNumeric_of_isDigit hdigit, ?_⟩
    exact isNumeric_of_dropWhile (isNumeric_of_isFraction hfraction)

/-! ## Characters of numbers -/

theorem isDigit_asciiChar (b : UInt8) : (asciiChar b).isDigit = isDigit b := by
  have hval : (asciiChar b).val.toNat = b.toNat := Text.toNat_asciiChar b
  simp only [Char.isDigit, isDigit, UInt32.le_iff_toNat_le, UInt8.le_iff_toNat_le, hval, ge_iff_le]
  rfl

theorem bounds_of_isNumeric {b : UInt8} (h : isNumeric b = true) :
    0x2E ≤ b.toNat ∧ b.toNat ≤ 0x65 := by
  simp only [isNumeric, isDigit, Bool.or_eq_true, Bool.and_eq_true, decide_eq_true_eq, beq_iff_eq,
    UInt8.le_iff_toNat_le] at h
  rcases h with ((⟨hlow, hhigh⟩ | rfl) | rfl) | rfl
  · change 48 ≤ b.toNat at hlow
    change b.toNat ≤ 57 at hhigh
    omega
  all_goals decide

theorem lt_of_isDigit {b : UInt8} (h : isDigit b = true) : b < 0x80 := by
  have := (bounds_of_isNumeric (isNumeric_of_isDigit h)).2
  rw [UInt8.lt_iff_toNat_lt]
  exact Nat.lt_of_le_of_lt this (by decide)

theorem isBlank_asciiChar {b : UInt8} (h : isNumeric b = true) :
    Text.isBlank (asciiChar b) = false := by
  obtain ⟨hlow, hhigh⟩ := bounds_of_isNumeric h
  rw [← Text.toNat_asciiChar] at hlow hhigh
  have hout : ∀ r ∈ Text.blankRanges, r.2 < 0x2E ∨ 0x65 < r.1 := by decide
  rw [Bool.eq_false_iff]
  intro hblank
  obtain ⟨r, hr, hbounds⟩ := Text.inRanges_iff.mp hblank
  have := hout r hr
  omega

/-- Among the bytes of a number only digits may stand in an integer. -/
theorem isDigit_of_isDigitOrUnderscore {b : UInt8} (h : isNumeric b = true)
    (hc : Numeral.isDigitOrUnderscore (asciiChar b) = true) : isDigit b = true := by
  rw [Numeral.isDigitOrUnderscore, isDigit_asciiChar, Bool.or_eq_true, beq_iff_eq] at hc
  rcases hc with hdigit | hunderscore
  · exact hdigit
  · have hval : b.toNat = 0x5F := by
      rw [← Text.toNat_asciiChar, hunderscore]
      rfl
    have : b = 0x5F := UInt8.toNat_inj.mp hval
    subst this
    contradiction

/-! ## Integers with the shape of a negative number -/

/-- The text of a negative number has no blanks. -/
theorem integer?_hyphen_cons {bytes : List UInt8} (h : ∀ b ∈ bytes, isNumeric b = true) :
    integer? (hyphen :: bytes) =
      (Numeral.readSigned ('-' :: bytes.map asciiChar)).toOption := by
  have hascii : ∀ b ∈ hyphen :: bytes, b < 0x80 := by
    refine List.forall_mem_cons.mpr ⟨by decide, fun b hb => ?_⟩
    have := (bounds_of_isNumeric (h b hb)).2
    rw [UInt8.lt_iff_toNat_lt]
    exact Nat.lt_of_le_of_lt this (by decide)
  have hblank : ∀ c ∈ '-' :: bytes.map asciiChar, Text.isBlank c = false := by
    refine List.forall_mem_cons.mpr ⟨by decide, fun c hc => ?_⟩
    obtain ⟨b, hb, rfl⟩ := List.mem_map.mp hc
    exact isBlank_asciiChar (h b hb)
  have hchars : (hyphen :: bytes).map asciiChar = '-' :: bytes.map asciiChar := rfl
  rw [integer?, Text.decode?_of_ascii hascii, Option.bind_some, hchars, Numeral.readInt,
    String.toList_ofList, Text.trim_eq_self hblank]

theorem isNegative_of_isMinusDigits {a : Argument} (h : a.IsMinusDigits) :
    a.isHyphenated = true ∧ a.isNegative = true := by
  obtain ⟨digits, rfl, hne, hdigits⟩ := h
  cases digits with
  | nil => contradiction
  | cons b rest =>
    obtain ⟨hb, hrest⟩ := List.forall_mem_cons.mp hdigits
    have hdrop : rest.dropWhile isDigit = [] := List.dropWhile_eq_nil_iff.mpr hrest
    simp [isHyphenated, isNegative, isUnsigned, hb, hdrop, isFraction]

theorem isMinusDigits_of_isNegative {a : Argument} {v : Int} (h : a.isNegative = true)
    (hv : a.integer? = some v) : a.IsMinusDigits := by
  cases a with
  | nil => contradiction
  | cons first bytes =>
    obtain ⟨rfl, hunsigned⟩ : first = hyphen ∧ isUnsigned bytes = true := by
      simpa [isNegative] using h
    have hnumeric := isNumeric_of_isUnsigned hunsigned
    cases bytes with
    | nil => contradiction
    | cons b rest =>
      obtain ⟨hb, -⟩ : isDigit b = true ∧ isFraction (rest.dropWhile isDigit) = true := by
        simpa [isUnsigned] using hunsigned
      have hread := integer?_hyphen_cons hnumeric
      rw [hv, List.map_cons, Numeral.readSigned_minus] at hread
      obtain ⟨n, hn⟩ : ∃ n, Numeral.readMagnitude (asciiChar b :: rest.map asciiChar) = .ok n := by
        cases hmagnitude : Numeral.readMagnitude (asciiChar b :: rest.map asciiChar) with
        | error fault =>
          rw [hmagnitude] at hread
          contradiction
        | ok n => exact ⟨n, rfl⟩
      have hall := (Numeral.grouped_of_readMagnitude hn).2
      refine ⟨b :: rest, rfl, List.cons_ne_nil _ _, List.forall_mem_cons.mpr ⟨hb, ?_⟩⟩
      intro d hd
      apply isDigit_of_isDigitOrUnderscore (hnumeric d (List.mem_cons_of_mem b hd))
      exact List.all_eq_true.mp hall _ (List.mem_map_of_mem hd)

/-- A number with an exponent is no integer, but it is no flag either. -/
example : isNegative (ofString "-1.5e3") = true ∧ integer? (ofString "-1.5e3") = none := by decide

theorem head?_of_isHyphenated {a : Argument} (h : a.isHyphenated = true) :
    a.head? = some hyphen := by
  match a, h with
  | b :: _ :: _, h => exact congrArg some (beq_iff_eq.mp h)

/-- A hyphen alone is no integer. -/
theorem isHyphenated_of_integer? {a : Argument} {v : Int} (hhead : a.head? = some hyphen)
    (hv : a.integer? = some v) : a.isHyphenated = true := by
  match a, hhead with
  | [_], rfl =>
    have hnone : integer? [hyphen] = none := by decide
    rw [hnone] at hv
    contradiction
  | b :: c :: rest, hhead => simpa [isHyphenated] using hhead

/-! ## Texts as arguments -/

theorem integer?_eq_some_iff {a : Argument} {v : Int} :
    a.integer? = some v ↔ ∃ text, a = ofString text ∧ Numeral.readInt text = .ok v := by
  constructor
  · intro h
    obtain ⟨text, hdecode, hread⟩ := Option.bind_eq_some_iff.mp h
    refine ⟨text, (Text.encode_of_decode? hdecode).symm, ?_⟩
    cases hv : Numeral.readInt text with
    | error fault => simp [hv, Except.toOption] at hread
    | ok n => simpa [hv, Except.toOption] using hread
  · rintro ⟨text, rfl, hread⟩
    rw [integer?, ofString, Text.decode?_encode, Option.bind_some, hread]
    rfl

theorem exists_toList_of_head {text : String} (h : (ofString text).head? = some hyphen) :
    ∃ cs, text.toList = '-' :: cs ∧ ofString text = hyphen :: ofString (String.ofList cs) := by
  cases hbytes : ofString text with
  | nil => simp [hbytes] at h
  | cons b rest =>
    obtain rfl : b = hyphen := by simpa [hbytes] using h
    obtain ⟨cs, hcs, hrest⟩ := Text.exists_toList_of_encode hbytes (by decide)
    exact ⟨cs, hcs, congrArg (hyphen :: ·) hrest.symm⟩

/-- A digit is a byte of its own. -/
theorem exists_byte_of_isDigit {d : Char} (h : d.isDigit = true) (cs : List Char) :
    ∃ b, isDigit b = true ∧
      ofString (String.ofList (d :: cs)) = b :: ofString (String.ofList cs) := by
  have hlow : d.toNat ≤ 57 := of_decide_eq_true (Bool.and_eq_true_iff.mp h).2
  have hd := Text.asciiChar_ofNat (c := d) (by omega)
  have hb : isDigit (UInt8.ofNat d.toNat) = true := by rw [← isDigit_asciiChar, hd, h]
  refine ⟨_, hb, ?_⟩
  have hascii := Text.encode_cons_of_ascii (lt_of_isDigit hb) cs
  rwa [hd] at hascii

theorem isDigit_of_mem_ofString {cs : List Char} (h : ∀ c ∈ cs, c.isDigit = true) :
    ∀ b ∈ ofString (String.ofList cs), isDigit b = true := by
  induction cs with
  | nil => exact fun b hb => absurd hb List.not_mem_nil
  | cons c cs ih =>
    obtain ⟨hc, hcs⟩ := List.forall_mem_cons.mp h
    obtain ⟨b, hb, hbytes⟩ := exists_byte_of_isDigit hc cs
    rw [hbytes]
    exact List.forall_mem_cons.mpr ⟨hb, ih hcs⟩

/-- Behind the hyphen of an integer stands a digit. -/
theorem exists_digit_of_integer? {a : Argument} {v : Int} (hhead : a.head? = some hyphen)
    (hv : a.integer? = some v) : ∃ b rest, a = hyphen :: b :: rest ∧ isDigit b = true := by
  obtain ⟨text, rfl, hread⟩ := integer?_eq_some_iff.mp hv
  obtain ⟨cs, htext, hbytes⟩ := exists_toList_of_head hhead
  obtain ⟨d, rest, rfl, hd⟩ := Numeral.exists_digit_of_readInt hread htext
  obtain ⟨b, hb, hrest⟩ := exists_byte_of_isDigit hd rest
  exact ⟨b, _, by rw [hbytes, hrest], hb⟩

theorem integer?_decimal (n : Int) : integer? (ofString (Numeral.decimal n)) = some n :=
  integer?_eq_some_iff.mpr ⟨_, rfl, Numeral.readInt_decimal n⟩

/-- The minus of a decimal numeral has only digits behind it. -/
theorem isMinusDigits_decimal {n : Int}
    (h : (ofString (Numeral.decimal n)).head? = some hyphen) :
    (ofString (Numeral.decimal n)).IsMinusDigits := by
  obtain ⟨cs, htext, hbytes⟩ := exists_toList_of_head h
  have hdigit : ∀ c ∈ Nat.toDigits 10 n.natAbs, c.isDigit = true := fun c hc =>
    Numeral.isDigit_of_mem_alphabet
      (Numeral.mem_alphabet_of_mem_toDigits (by decide) (by decide) hc)
  rw [Numeral.toList_decimal] at htext
  split at htext
  · obtain ⟨-, rfl⟩ := List.cons.inj htext
    refine ⟨_, hbytes, ?_, isDigit_of_mem_ofString hdigit⟩
    obtain ⟨d, rest, hcons⟩ := List.exists_cons_of_ne_nil (@Nat.toDigits_ne_nil n.natAbs 10)
    obtain ⟨b, -, hb⟩ := exists_byte_of_isDigit (hdigit d (by simp [hcons])) rest
    rw [hcons, hb]
    exact List.cons_ne_nil _ _
  · have hminus := hdigit '-' (htext ▸ List.mem_cons_self)
    exact absurd hminus (by decide)

end Argument

/-! ## The flag for the version -/

namespace Flag

/-- Behind the name of a long flag comes nothing, or an equals sign. -/
theorem eq_or_prefix_of_takeWhile {body name : List UInt8}
    (h : body.takeWhile (· != 0x3D) = name) : body = name ∨ name ++ [0x3D] <+: body := by
  induction body generalizing name with
  | nil => exact .inl h
  | cons b body ih =>
    by_cases hb : b = 0x3D
    · obtain rfl : [] = name := by simpa [hb] using h
      exact .inr ⟨body, by simp [hb]⟩
    · obtain rfl : b :: body.takeWhile (· != 0x3D) = name := by simpa [hb] using h
      rcases ih rfl with hbody | hlead
      · exact .inl (congrArg (b :: ·) hbody)
      · exact .inr ((List.prefix_cons_inj b).mpr hlead)

theorem ofLong_eq_of_name {body : List UInt8}
    (h : body.takeWhile (· != 0x3D) ≠ Text.encode "version") (versioned : Bool) :
    ofLong versioned body = ofLong false body := by
  simp only [ofLong, List.span_eq_takeWhile_dropWhile, h, false_and]

/-- Only an argument that asks for the version depends on whether there is a flag
    for it. -/
theorem ofArgument_eq_of_not_asksVersion {a : Argument} (hhyphen : a.isHyphenated = true)
    (h : ¬ a.AsksVersion) (versioned : Bool) : ofArgument versioned a = ofArgument false a := by
  match a, hhyphen with
  | first :: b :: body, hhyphen =>
    obtain rfl : first = Argument.hyphen := beq_iff_eq.mp hhyphen
    simp only [ofArgument, List.drop_succ_cons, List.drop_zero]
    split
    · rename_i hb
      obtain rfl := beq_iff_eq.mp hb
      apply ofLong_eq_of_name
      intro hname
      apply h
      rcases eq_or_prefix_of_takeWhile hname with rfl | ⟨value, rfl⟩
      · exact .inr (.inl rfl)
      · exact .inr (.inr ⟨value, rfl⟩)
    · have hletter : b ≠ 0x56 := by
        rintro rfl
        exact h (.inl ⟨body, rfl⟩)
      simp [ofShort, hletter]

theorem ofLong_false_ne_version (body : List UInt8) : ofLong false body ≠ .version := by
  unfold ofLong
  obtain ⟨name, value⟩ := body.span (· != 0x3D)
  by_cases hname : name = Text.encode "help"
  · cases value <;> simp [hname]
  · simp [hname]

theorem ofArgument_false_ne_version (a : Argument) : ofArgument false a ≠ .version := by
  have hshort (body : List UInt8) : ofShort false body ≠ .version := by
    unfold ofShort
    split <;> simp
  unfold ofArgument
  split
  · exact hshort []
  · split
    · exact ofLong_false_ne_version _
    · exact hshort _

/-! ## Digits behind a hyphen -/

theorem shownFirst_of_ascii {b : UInt8} (h : b < 0x80) (rest : List UInt8) :
    shownFirst (b :: rest) = String.singleton (Text.asciiChar b) := by
  have hlead : Text.Lead.ofByte? b = some { bits := b.toNat, more := 0 } := by
    simp [Text.Lead.ofByte?, h]
  rw [shownFirst, Text.characters, hlead]
  rfl

/-- No flag has a digit for its letter. -/
theorem ofArgument_of_isDigit {b : UInt8} (h : Argument.isDigit b = true) (versioned : Bool)
    (rest : List UInt8) :
    ofArgument versioned (Argument.hyphen :: b :: rest) =
      .refused (.unexpectedArgument ("-" ++ String.singleton (Text.asciiChar b))) := by
  have hne {c : UInt8} (hc : Argument.isDigit c = false) : b ≠ c := by
    rintro rfl
    rw [hc] at h
    contradiction
  have hshort :
      ofArgument versioned (Argument.hyphen :: b :: rest) = ofShort versioned (b :: rest) := by
    simp [ofArgument, hne (c := Argument.hyphen) (by decide)]
  rw [hshort, ofShort, shownFirst_of_ascii (Argument.lt_of_isDigit h)]
  simp [hne (c := 0x68) (by decide), hne (c := 0x56) (by decide)]

/-- Nothing of the message is hidden. -/
theorem report_unexpectedArgument_of_isDigit {d : Char} (h : d.isDigit = true) :
    (UsageError.unexpectedArgument ("-" ++ String.singleton d)).report =
      "error: unexpected argument '-" ++ String.singleton d ++ "' found" := by
  have hall : (Numeral.alphabet 10).all (fun d =>
      (UsageError.unexpectedArgument ("-" ++ String.singleton d)).report =
        "error: unexpected argument '-" ++ String.singleton d ++ "' found") = true := by decide
  simpa using List.all_eq_true.mp hall d (Numeral.mem_alphabet_of_isDigit h)

end Flag

end Fixture
