-- SUMMARY: Which arguments of a task make a request, and what its flag for the version changes.
import Fixture.Command.Reading
import Fixture.Proofs.Command.Argument

/-!
# Requests read from arguments

Arguments make a request when they spell one integer for each operand. What they
spell does not depend on where reading stands: a hyphen in front of digits is a
sign as long as flags are allowed, and any other hyphen in front begins a flag.
-/

namespace Fixture

/-! ## Spelled integers -/

namespace Argument

/-- The arguments in front of the first separator. -/
def before (args : List Argument) : List Argument := args.takeWhile (!·.isSeparator)

/-- The arguments behind the first separator. -/
def behind (args : List Argument) : List Argument := (args.dropWhile (!·.isSeparator)).tail

section
variable {a : Argument} {rest : List Argument}

theorem before_of_isSeparator (h : a.isSeparator = true) : before (a :: rest) = [] := by
  simp [before, h]

theorem behind_of_isSeparator (h : a.isSeparator = true) : behind (a :: rest) = rest := by
  simp [behind, h]

theorem before_cons (h : a.isSeparator = false) : before (a :: rest) = a :: before rest := by
  simp [before, h]

theorem behind_cons (h : a.isSeparator = false) : behind (a :: rest) = behind rest := by
  simp [behind, h]

theorem isSeparator_eq_false_of_integer? {v : Int} (h : a.integer? = some v) :
    a.isSeparator = false := by
  rw [Bool.eq_false_iff]
  intro ha
  obtain rfl := beq_iff_eq.mp ha
  have hnone : integer? [hyphen, hyphen] = none := by decide
  rw [hnone] at h
  contradiction

end

theorem exists_values_iff {args : List Argument} :
    (∃ values : List Int, args.map integer? = values.map some) ↔ ∀ a ∈ args, ∃ v, a.integer? = some v := by
  constructor
  · rintro ⟨values, h⟩ a ha
    have hmem : a.integer? ∈ values.map some := h ▸ List.mem_map_of_mem ha
    obtain ⟨v, -, hv⟩ := List.mem_map.mp hmem
    exact ⟨v, hv.symm⟩
  · intro h
    induction args with
    | nil => exact ⟨[], rfl⟩
    | cons a rest ih =>
      obtain ⟨⟨v, hv⟩, hrest⟩ := List.forall_mem_cons.mp h
      obtain ⟨values, hvalues⟩ := ih hrest
      exact ⟨v :: values, by rw [List.map_cons, hv, hvalues, List.map_cons]⟩

/-- Integers have no separator among them. -/
theorem before_append_behind_of_integers {args : List Argument}
    (h : ∀ a ∈ args, ∃ v, a.integer? = some v) : before args = args ∧ behind args = [] := by
  induction args with
  | nil => exact ⟨rfl, rfl⟩
  | cons a rest ih =>
    obtain ⟨⟨v, hv⟩, hrest⟩ := List.forall_mem_cons.mp h
    obtain ⟨hbefore, hbehind⟩ := ih hrest
    have ha := isSeparator_eq_false_of_integer? hv
    rw [before_cons ha, behind_cons ha, hbefore, hbehind]
    exact ⟨rfl, rfl⟩

/-- The arguments spell the integers one by one. A literal list has no flags and
    no separator. -/
inductive Spell : Bool → List Argument → List Int → Prop
  | nil {literal : Bool} : Spell literal [] []
  | separator {a : Argument} {rest : List Argument} {values : List Int}
      (ha : a.isSeparator = true) (hrest : Spell true rest values) : Spell false (a :: rest) values
  | value {literal : Bool} {a : Argument} {v : Int} {rest : List Argument} {values : List Int}
      (hv : a.integer? = some v)
      (hsign : literal = false → a.isHyphenated = true → a.IsMinusDigits)
      (hrest : Spell literal rest values) : Spell literal (a :: rest) (v :: values)

theorem isHyphenated_of_isSeparator {a : Argument} (h : a.isSeparator = true) :
    a.isHyphenated = true := by
  obtain rfl := beq_iff_eq.mp h
  rfl

theorem not_isMinusDigits_of_isSeparator {a : Argument} (h : a.isSeparator = true) :
    ¬ a.IsMinusDigits := by
  obtain rfl := beq_iff_eq.mp h
  rintro ⟨digits, heq, -, hdigits⟩
  obtain rfl : [hyphen] = digits := List.tail_eq_of_cons_eq heq
  exact absurd (hdigits hyphen List.mem_cons_self) (by decide)

theorem spell_true_iff {args : List Argument} {values : List Int} :
    Spell true args values ↔ args.map integer? = values.map some := by
  constructor
  · intro h
    generalize hliteral : true = literal at h
    induction h with
    | nil => rfl
    | separator => contradiction
    | value hv _ _ ih => rw [List.map_cons, List.map_cons, hv, ih hliteral]
  · intro h
    induction args generalizing values with
    | nil =>
      obtain rfl := List.map_eq_nil_iff.mp h.symm
      exact .nil
    | cons a rest ih =>
      cases values with
      | nil => contradiction
      | cons v values =>
        obtain ⟨hv, hrest⟩ := List.cons.inj h
        exact .value hv (fun hfalse => nomatch hfalse) (ih hrest)

theorem spell_false_iff {args : List Argument} {values : List Int} :
    Spell false args values ↔
      (before args ++ behind args).map integer? = values.map some ∧
        ∀ a ∈ before args, a.head? = some hyphen → a.IsMinusDigits := by
  induction args generalizing values with
  | nil =>
    constructor
    · rintro ⟨⟩
      exact ⟨rfl, fun _ h => (List.not_mem_nil h).elim⟩
    · rintro ⟨h, -⟩
      obtain rfl := List.map_eq_nil_iff.mp h.symm
      exact .nil
  | cons a rest ih =>
    cases ha : a.isSeparator with
    | true =>
      rw [before_of_isSeparator ha, behind_of_isSeparator ha, List.nil_append, ← spell_true_iff]
      constructor
      · intro h
        cases h with
        | separator _ hrest => exact ⟨hrest, fun _ h => (List.not_mem_nil h).elim⟩
        | value _ hsign _ =>
          exact absurd (hsign rfl (isHyphenated_of_isSeparator ha))
            (not_isMinusDigits_of_isSeparator ha)
      · rintro ⟨h, -⟩
        exact .separator ha h
    | false =>
      rw [before_cons ha, behind_cons ha, List.cons_append, List.map_cons, List.forall_mem_cons]
      constructor
      · intro h
        cases h with
        | separator htrue _ => simp [ha] at htrue
        | value hv hsign hrest =>
          obtain ⟨hmap, hdigits⟩ := ih.mp hrest
          refine ⟨by rw [hv, hmap, List.map_cons], fun hhead => ?_, hdigits⟩
          exact hsign rfl (isHyphenated_of_integer? hhead hv)
      · rintro ⟨hmap, hhead, hdigits⟩
        cases values with
        | nil => contradiction
        | cons v values =>
          obtain ⟨hv, hrest⟩ := List.cons.inj hmap
          refine .value hv (fun _ hhyphen => hhead ?_) (ih.mpr ⟨hrest, hdigits⟩)
          exact head?_of_isHyphenated hhyphen

end Argument

theorem Operand.read_eq_ok_iff {operand : Operand} {a : Argument} {v : Int} :
    operand.read a = .ok v ↔ a.integer? = some v := by
  unfold Operand.read Argument.integer?
  cases Text.decode? a with
  | none => simp
  | some text =>
    cases hread : Numeral.readInt text with
    | ok n => simp [hread, Except.toOption]
    | error fault => simp [hread, Except.toOption]

/-! ## Steps -/

/-- Go on behind the outcome of an argument. -/
def Progress.resume (p : Progress) (rest : List Argument) : Except UsageError Reply :=
  match p with
  | .more r => r.scan rest
  | .done result => result

namespace Reading

theorem step_of_separator {r : Reading} {a : Argument} (hliteral : r.literal = false)
    (ha : a.isSeparator = true) : r.step a = .more { r with literal := true } := by
  simp [step, hliteral, ha]

theorem step_of_flag {r : Reading} {a : Argument} (hliteral : r.literal = false)
    (ha : a.isSeparator = false) (hflag : r.isFlag a = true) :
    r.step a = .done (r.obey (Flag.ofArgument r.form.versioned a)) := by
  simp [step, hliteral, ha, hflag]

theorem step_of_value {r : Reading} {a : Argument}
    (h : r.literal = false → a.isSeparator = false ∧ r.isFlag a = false) :
    r.step a = r.store a := by
  cases hliteral : r.literal with
  | true => simp [step, hliteral]
  | false => simp [step, hliteral, h hliteral]

/-- An argument ends the flags, is a flag, or is a value. -/
theorem argument_cases (r : Reading) (a : Argument) :
    (r.literal = false ∧ a.isSeparator = true) ∨
    (r.literal = false ∧ a.isSeparator = false ∧ r.isFlag a = true) ∨
    (r.literal = false → a.isSeparator = false ∧ r.isFlag a = false) := by
  cases r.literal <;> cases a.isSeparator <;> cases r.isFlag a <;> simp

theorem scan_cons (r : Reading) (a : Argument) (rest : List Argument) :
    r.scan (a :: rest) = (r.step a).resume rest := by
  rw [scan]
  cases r.step a <;> rfl

/-- The operands with a value and those without are all that the task has. -/
def Balanced (r : Reading) : Prop :=
  ∀ values, r.settle = .ok values → values.length + r.wanted.length = r.form.task.operands.length

theorem balanced_start (form : Form) : (start form).Balanced := by
  intro values h
  obtain rfl := Except.ok.inj h
  simp [start]

/-- Reading behind `a`, stored as the value of `operand` once `values` are checked. -/
def stored (r : Reading) (a : Argument) (operand : Operand) (wanted : List Operand)
    (values : List Int) : Reading :=
  { r with wanted, values, pending := some (operand, a) }

section
variable {r : Reading} {a : Argument} {operand : Operand} {wanted : List Operand}
  {values : List Int}

theorem store_eq (hwanted : r.wanted = operand :: wanted) (hvalues : r.settle = .ok values) :
    r.store a = .more (r.stored a operand wanted values) := by
  simp only [store, hwanted, hvalues, stored]

theorem settle_stored_eq_ok_iff {values' : List Int} :
    (r.stored a operand wanted values).settle = .ok values' ↔
      ∃ v, a.integer? = some v ∧ values' = values ++ [v] := by
  simp only [settle, stored, ← @Operand.read_eq_ok_iff operand]
  cases operand.read a with
  | error e => simp [Except.map]
  | ok v => simp [Except.map, eq_comm]

/-- A stored value takes the place of a wanted operand. -/
theorem balanced_stored (h : r.Balanced) (hwanted : r.wanted = operand :: wanted)
    (hvalues : r.settle = .ok values) : (r.stored a operand wanted values).Balanced := by
  intro values' h'
  obtain ⟨v, -, rfl⟩ := settle_stored_eq_ok_iff.mp h'
  have hlength := h values hvalues
  rw [hwanted] at hlength
  simp only [List.length_append, List.length_cons, List.length_nil] at hlength ⊢
  show values.length + (0 + 1) + wanted.length = r.form.task.operands.length
  omega

end

theorem isNegative_of_isFlag {r : Reading} {a : Argument} (hflag : r.isFlag a = false)
    (hhyphen : a.isHyphenated = true) : a.isNegative = true := by
  simp only [isFlag, hhyphen, Bool.true_and, Bool.not_eq_false', Bool.and_eq_true] at hflag
  exact hflag.1

theorem step_eq_store {r : Reading} {a : Argument} {operand : Operand} {wanted : List Operand}
    (hwanted : r.wanted = operand :: wanted)
    (hsign : r.literal = false → a.isHyphenated = true → a.IsMinusDigits) :
    r.step a = r.store a := by
  rcases r.argument_cases a with ⟨hliteral, ha⟩ | ⟨hliteral, -, hflag⟩ | hvalue
  · have hdigits := hsign hliteral (Argument.isHyphenated_of_isSeparator ha)
    exact absurd hdigits (Argument.not_isMinusDigits_of_isSeparator ha)
  · obtain ⟨hhyphen, hnot⟩ := Bool.and_eq_true_iff.mp hflag
    have hnegative := (Argument.isNegative_of_isMinusDigits (hsign hliteral hhyphen)).2
    simp [hnegative, hwanted] at hnot
  · exact step_of_value hvalue

/-- A flag that is obeyed is answered with what it asks for. -/
theorem obey_eq_ok {r : Reading} {flag : Flag} {reply : Reply} (h : r.obey flag = .ok reply) :
    (flag = .help ∧ reply = .help) ∨ (flag = .version ∧ reply = .version) := by
  have heq {answer : Reply} (h : (r.settle.map fun _ => answer) = .ok reply) : reply = answer := by
    cases hsettle : r.settle with
    | error e => simp [hsettle, Except.map] at h
    | ok values => simpa [hsettle, Except.map, eq_comm] using h
  cases flag with
  | help => exact .inl ⟨rfl, heq h⟩
  | version => exact .inr ⟨rfl, heq h⟩
  | refused e => simp [obey] at h

/-! ## Requests -/

/-- A stored value that leads to a reply was wanted, behind good values. -/
theorem exists_of_resume_store {r : Reading} {a : Argument} {rest : List Argument}
    {reply : Reply} (h : (r.store a).resume rest = .ok reply) :
    ∃ operand wanted values, r.wanted = operand :: wanted ∧ r.settle = .ok values ∧
      (r.stored a operand wanted values).scan rest = .ok reply := by
  cases hwanted : r.wanted with
  | nil => simp [store, hwanted, Progress.resume] at h
  | cons operand wanted =>
    cases hvalues : r.settle with
    | error e => simp [store, hwanted, hvalues, Progress.resume] at h
    | ok values =>
      rw [store_eq hwanted hvalues] at h
      exact ⟨operand, wanted, values, rfl, rfl, h⟩

/-- What a request was read from spells the values that were not checked before. -/
theorem spell_of_scan {r : Reading} {args : List Argument} {request : Request}
    (h : r.scan args = .ok (.request request)) :
    ∃ front values, r.settle = .ok front ∧ Argument.Spell r.literal args values ∧
      r.form.task.request? (front ++ values) = some request := by
  induction args generalizing r with
  | nil =>
    cases hfront : r.settle with
    | error e => simp [scan, finish, hfront] at h
    | ok front =>
      cases hrequest : r.form.task.request? front with
      | none => simp [scan, finish, hfront, hrequest] at h
      | some q =>
        obtain rfl : q = request := by simpa [scan, finish, hfront, hrequest] using h
        exact ⟨front, [], rfl, .nil, by rw [List.append_nil, hrequest]⟩
  | cons a rest ih =>
    rw [scan_cons] at h
    rcases r.argument_cases a with ⟨hliteral, ha⟩ | ⟨hliteral, ha, hflag⟩ | hvalue
    · rw [step_of_separator hliteral ha] at h
      obtain ⟨front, values, hfront, hspell, hrequest⟩ := ih h
      exact ⟨front, values, hfront, hliteral ▸ .separator ha hspell, hrequest⟩
    · rw [step_of_flag hliteral ha hflag] at h
      rcases obey_eq_ok h with ⟨-, hreply⟩ | ⟨-, hreply⟩ <;> contradiction
    · rw [step_of_value hvalue] at h
      obtain ⟨operand, wanted, front, -, hfront, hscan⟩ := exists_of_resume_store h
      -- `a` was stored unchecked. It is an integer because the rest was read to its end.
      obtain ⟨front', values, hfront', hspell, hrequest⟩ := ih hscan
      obtain ⟨v, hv, rfl⟩ := settle_stored_eq_ok_iff.mp hfront'
      rw [List.append_assoc] at hrequest
      refine ⟨front, v :: values, hfront, .value hv ?_ hspell, hrequest⟩
      intro hliteral hhyphen
      have hnegative := isNegative_of_isFlag (hvalue hliteral).2 hhyphen
      exact Argument.isMinusDigits_of_isNegative hnegative hv

/-- Arguments that spell what is still missing make a request. -/
theorem scan_of_spell {r : Reading} (hbalanced : r.Balanced) {args : List Argument}
    {front values : List Int} {request : Request} (hfront : r.settle = .ok front)
    (hspell : Argument.Spell r.literal args values)
    (hrequest : r.form.task.request? (front ++ values) = some request) :
    r.scan args = .ok (.request request) := by
  generalize hliteral : r.literal = literal at hspell
  induction hspell generalizing r front with
  | nil =>
    rw [List.append_nil] at hrequest
    simp only [scan, finish, hfront, hrequest]
  | @separator a rest values ha _ ih =>
    rw [scan_cons, step_of_separator hliteral ha]
    exact ih (r := { r with literal := true }) hbalanced hfront hrequest rfl
  | @value literal a v rest values hv hsign _ ih =>
    -- There is a value left to read, so an operand is still without one.
    obtain ⟨operand, wanted, hwanted⟩ : ∃ operand wanted, r.wanted = operand :: wanted := by
      have hlength := Task.request?_isSome_iff.mp (Option.isSome_of_mem hrequest)
      have htotal := hbalanced front hfront
      apply List.exists_cons_of_length_pos
      simp only [List.length_append, List.length_cons] at hlength
      omega
    rw [scan_cons, step_eq_store hwanted (hliteral ▸ hsign), store_eq hwanted hfront]
    apply ih (balanced_stored hbalanced hwanted hfront)
      (settle_stored_eq_ok_iff.mpr ⟨v, hv, rfl⟩) _ hliteral
    rw [List.append_assoc]
    exact hrequest

/-! ## Integers taken for flags -/

/-- Among integers, one with a hyphen and more than digits behind it is refused
    as a flag. A value stored before it is good and changes nothing. -/
theorem scan_of_integer_flag {r : Reading} {args : List Argument} {front : List Int}
    (hliteral : r.literal = false) (hfront : r.settle = .ok front)
    (hlength : args.length ≤ r.wanted.length) (hintegers : ∀ a ∈ args, ∃ v, a.integer? = some v)
    (hflag : ∃ a ∈ args, a.head? = some Argument.hyphen ∧ ¬ a.IsMinusDigits) :
    ∃ b, Argument.isDigit b = true ∧ r.scan args =
      .error (.unexpectedArgument ("-" ++ String.singleton (Text.asciiChar b))) := by
  induction args generalizing r front with
  | nil =>
    obtain ⟨a, ha, -⟩ := hflag
    exact absurd ha List.not_mem_nil
  | cons a rest ih =>
    obtain ⟨⟨v, hv⟩, hrest⟩ := List.forall_mem_cons.mp hintegers
    rw [scan_cons]
    rcases r.argument_cases a with ⟨-, ha⟩ | ⟨-, ha, hisFlag⟩ | hvalue
    · rw [Argument.isSeparator_eq_false_of_integer? hv] at ha
      contradiction
    · have hhead := Argument.head?_of_isHyphenated (Bool.and_eq_true_iff.mp hisFlag).1
      obtain ⟨b, more, rfl, hb⟩ := Argument.exists_digit_of_integer? hhead hv
      refine ⟨b, hb, ?_⟩
      rw [step_of_flag hliteral ha hisFlag, Flag.ofArgument_of_isDigit hb]
      rfl
    · obtain ⟨operand, wanted, hwanted⟩ := List.exists_cons_of_length_pos
        (Nat.lt_of_lt_of_le (Nat.zero_lt_succ rest.length) hlength)
      have hnext : (r.stored a operand wanted front).settle = .ok (front ++ [v]) :=
        settle_stored_eq_ok_iff.mpr ⟨v, hv, rfl⟩
      rw [step_of_value hvalue, store_eq hwanted hfront]
      refine ih hliteral hnext ?_ hrest ?_
      · rw [hwanted] at hlength
        exact Nat.le_of_succ_le_succ hlength
      · -- `a` itself was stored, so that its hyphen is a sign.
        obtain ⟨c, hc, hhead, hnot⟩ := hflag
        rcases List.mem_cons.mp hc with rfl | hc
        · have hhyphen := Argument.isHyphenated_of_integer? hhead hv
          have hnegative := isNegative_of_isFlag (hvalue hliteral).2 hhyphen
          exact absurd (Argument.isMinusDigits_of_isNegative hnegative hv) hnot
        · exact ⟨c, hc, hhead, hnot⟩

/-! ## The flag for the version -/

/-- The same place in the arguments of a command that has no flag for the version. -/
def unversioned (r : Reading) : Reading := { r with form := { r.form with versioned := false } }

/-- A command with no flag for the version does not show it. -/
theorem scan_ne_version {r : Reading} (hform : r.form.versioned = false) (args : List Argument) :
    r.scan args ≠ .ok .version := by
  induction args generalizing r with
  | nil =>
    rw [scan, finish]
    split
    · simp
    · split <;> simp
  | cons a rest ih =>
    rw [scan_cons]
    rcases r.argument_cases a with ⟨hliteral, ha⟩ | ⟨hliteral, ha, hflag⟩ | hvalue
    · rw [step_of_separator hliteral ha]
      exact ih (r := { r with literal := true }) hform
    · rw [step_of_flag hliteral ha hflag, hform]
      intro h
      rcases obey_eq_ok h with ⟨-, hreply⟩ | ⟨hversion, -⟩
      · contradiction
      · exact Flag.ofArgument_false_ne_version a hversion
    · rw [step_of_value hvalue]
      intro h
      obtain ⟨operand, wanted, values, -, -, hscan⟩ := exists_of_resume_store h
      exact ih (r := r.stored a operand wanted values) hform hscan

/-- A stored argument is no flag, so that the flags that there are do not matter. -/
theorem resume_store_unversioned {r : Reading} {a : Argument} {rest : List Argument}
    (h : ∀ s : Reading, s.literal = r.literal → s.unversioned.scan rest = s.scan rest) :
    (r.unversioned.store a).resume rest = (r.store a).resume rest := by
  have hsettle : r.unversioned.settle = r.settle := rfl
  have hwanted : r.unversioned.wanted = r.wanted := rfl
  cases hoperands : r.wanted with
  | nil => simp only [store, hwanted, hoperands]
  | cons operand wanted =>
    cases hvalues : r.settle with
    | error e => simp only [store, hwanted, hoperands, hsettle, hvalues, Progress.resume]
    | ok values =>
      rw [store_eq (hwanted.trans hoperands) (hsettle.trans hvalues), store_eq hoperands hvalues]
      exact h (r.stored a operand wanted values) rfl

/-- Where no argument asks for the version, it makes no difference whether there
    is a flag for it. -/
theorem scan_unversioned {r : Reading} {args : List Argument}
    (h : r.literal = false → ∀ a ∈ Argument.before args, ¬ a.AsksVersion) :
    r.unversioned.scan args = r.scan args := by
  induction args generalizing r with
  | nil => rfl
  | cons a rest ih =>
    rw [scan_cons, scan_cons]
    rcases r.argument_cases a with ⟨hliteral, ha⟩ | ⟨hliteral, ha, hflag⟩ | hvalue
    · rw [step_of_separator hliteral ha, step_of_separator (r := r.unversioned) hliteral ha]
      exact ih (r := { r with literal := true }) (nomatch ·)
    · have hhyphen := (Bool.and_eq_true_iff.mp hflag).1
      have hasks : ¬ a.AsksVersion := h hliteral a (by simp [Argument.before_cons ha])
      rw [step_of_flag hliteral ha hflag, step_of_flag (r := r.unversioned) hliteral ha hflag,
        Flag.ofArgument_eq_of_not_asksVersion hhyphen hasks r.form.versioned]
      rfl
    · rw [step_of_value hvalue, step_of_value (r := r.unversioned) hvalue]
      apply resume_store_unversioned
      intro s hs
      apply ih
      intro hliteral b hb
      rw [hs] at hliteral
      apply h hliteral b
      rw [Argument.before_cons (hvalue hliteral).1]
      exact List.mem_cons_of_mem a hb

end Reading

end Fixture
