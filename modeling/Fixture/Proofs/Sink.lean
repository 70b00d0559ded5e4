-- SUMMARY: Which bytes of each line a scripted sink accepts, and how each call on it ends.
import Fixture.Sink

/-!
# Lines on a scripted sink

Lines are given to one sink, one after the other, and an error does not stop the
next line. Each call uses up the next part of the script and leaves a prefix of
its line behind. A call that fails in a write leaves a proper prefix, and its
failure is the last entry of the script that it used.
-/

namespace Fixture

/-- The failure that ends a line at a write with this outcome, if it ends it. -/
def WriteOutcome.fault? : WriteOutcome → Option Failure
  | .accept most => if most = 0 then some nothingAccepted else none
  | .fail failure => if failure.kind = .interrupted then none else some failure

/-- The failure of a flush. -/
def FlushOutcome.fault? : FlushOutcome → Option Failure
  | .done => none
  | .fail failure => some failure

/-- Only the last of the outcomes is a fault, and it is `failure`. -/
def FailsLast (used : List WriteOutcome) (failure : Failure) : Prop :=
  ∃ front last, used = front ++ [last] ∧ (∀ w ∈ front, w.fault? = none) ∧
    last.fault? = some failure

theorem FailsLast.cons {w : WriteOutcome} {used : List WriteOutcome} {failure : Failure}
    (hw : w.fault? = none) (h : FailsLast used failure) : FailsLast (w :: used) failure := by
  obtain ⟨front, last, rfl, hfront, hlast⟩ := h
  exact ⟨w :: front, last, rfl, List.forall_mem_cons.mpr ⟨hw, hfront⟩, hlast⟩

theorem FailsLast.singleton {w : WriteOutcome} {failure : Failure} (h : w.fault? = some failure) :
    FailsLast [w] failure :=
  ⟨[], w, rfl, fun _ h => (List.not_mem_nil h).elim, h⟩

/-! ## One line -/

/-- What became of the bytes offered to a script, whose entries `used` were met. -/
structure Offered.Accounts (o : Offered) (script : List WriteOutcome) (bytes : List UInt8)
    (used : List WriteOutcome) : Prop where
  script_eq : script = used ++ o.rest
  isPrefix : o.accepted <+: bytes
  whole : o.failure = none → o.accepted = bytes ∧ ∀ w ∈ used, w.fault? = none
  cut : ∀ failure, o.failure = some failure → o.accepted ≠ bytes ∧ FailsLast used failure

/-- A write that ends no line is met first. -/
theorem Offered.Accounts.after {o : Offered} {script used : List WriteOutcome}
    {back : List UInt8} {w : WriteOutcome} (h : o.Accounts script back used)
    (front : List UInt8) (hw : w.fault? = none) :
    (o.after front).Accounts (w :: script) (front ++ back) (w :: used) where
  script_eq := congrArg (w :: ·) h.script_eq
  isPrefix := (List.prefix_append_right_inj front).mpr h.isPrefix
  whole hnone := by
    obtain ⟨hbytes, hused⟩ := h.whole hnone
    exact ⟨congrArg (front ++ ·) hbytes, List.forall_mem_cons.mpr ⟨hw, hused⟩⟩
  cut failure hsome := by
    obtain ⟨hbytes, hends⟩ := h.cut failure hsome
    exact ⟨fun heq => hbytes (List.append_cancel_left heq), hends.cons hw⟩

/-- A fault is met first, with bytes still left. -/
theorem Offered.Accounts.of_fault {script : List WriteOutcome} {bytes : List UInt8}
    {w : WriteOutcome} {failure : Failure} (hw : w.fault? = some failure) (hbytes : bytes ≠ []) :
    Offered.Accounts ⟨some failure, [], 1, script⟩ (w :: script) bytes [w] where
  script_eq := rfl
  isPrefix := List.nil_prefix
  whole hnone := nomatch hnone
  cut failure' hsome := by
    obtain rfl := Option.some.inj hsome
    exact ⟨fun heq => hbytes heq.symm, .singleton hw⟩

theorem accounts_offer (script : List WriteOutcome) (bytes : List UInt8) :
    ∃ used, (offer script bytes).Accounts script bytes used := by
  fun_induction offer script bytes with
  | case1 script =>
    exact ⟨[], rfl, List.prefix_rfl, fun _ => ⟨rfl, by simp⟩, fun _ h => nomatch h⟩
  | case2 bytes hbytes =>
    exact ⟨[], rfl, List.prefix_rfl, fun _ => ⟨rfl, by simp⟩, fun _ h => nomatch h⟩
  | case3 script bytes hbytes =>
    exact ⟨_, .of_fault (by simp [WriteOutcome.fault?]) hbytes⟩
  | case4 most script bytes hbytes hmost ih =>
    obtain ⟨used, h⟩ := ih
    have hw : (WriteOutcome.accept most).fault? = none := if_neg hmost
    have hafter := h.after (bytes.take most) hw
    rw [List.take_append_drop] at hafter
    exact ⟨_, hafter⟩
  | case5 failure script bytes hbytes hkind ih =>
    obtain ⟨used, h⟩ := ih
    exact ⟨_, h.after [] (if_pos hkind)⟩
  | case6 failure script bytes hbytes hkind =>
    exact ⟨_, .of_fault (if_neg hkind) hbytes⟩

namespace Sink

/-! ## Calls -/

/-- One call on a sink: the line, the writes of the script that it used, and the
    bytes of the line that were accepted. -/
structure Call where
  line : String
  used : List WriteOutcome
  part : List UInt8

/-- The whole line was accepted. -/
abbrev Call.Whole (call : Call) : Prop := call.part = Text.encode call.line

/-- The number of flushes behind some calls: one for each whole line. -/
def flushesOf (calls : List Call) : Nat := calls.countP (·.Whole)

@[simp] theorem flushesOf_append (front back : List Call) :
    flushesOf (front ++ back) = flushesOf front + flushesOf back :=
  List.countP_append

/-- How a call ended, when the flush of the script that came next has the fault
    `flush`. -/
structure Call.Ends (call : Call) (flush : Option Failure) (result : Except FixtureError Unit) :
    Prop where
  isPrefix : call.part <+: Text.encode call.line
  used : call.Whole → ∀ w ∈ call.used, w.fault? = none
  ok_iff : result = .ok () ↔ call.Whole ∧ flush = none
  error : ∀ e, result = .error e → ∃ failure, e = .io failure ∧
    if call.Whole then flush = some failure else FailsLast call.used failure

/-- What calls do to the sink, from `before` the first to `after` the last. -/
structure Accounts (calls : List Call) (before after : Sink) : Prop where
  accepted : after.accepted = before.accepted ++ calls.flatMap Call.part
  flushCalls : after.flushCalls = before.flushCalls + flushesOf calls
  writes : before.writes = calls.flatMap Call.used ++ after.writes
  flushes : after.flushes = before.flushes.drop (flushesOf calls)

theorem Accounts.singleton {call : Call} {before after : Sink}
    (haccepted : after.accepted = before.accepted ++ call.part)
    (hflushCalls : after.flushCalls = before.flushCalls + flushesOf [call])
    (hwrites : before.writes = call.used ++ after.writes)
    (hflushes : after.flushes = before.flushes.drop (flushesOf [call])) :
    Accounts [call] before after where
  accepted := by rw [haccepted, List.flatMap_singleton]
  flushCalls := hflushCalls
  writes := by rw [hwrites, List.flatMap_singleton]
  flushes := hflushes

theorem Accounts.trans {front back : List Call} {before between after : Sink}
    (h : Accounts front before between) (h' : Accounts back between after) :
    Accounts (front ++ back) before after where
  accepted := by
    rw [h'.accepted, h.accepted, List.flatMap_append, List.append_assoc]
  flushCalls := by
    rw [h'.flushCalls, h.flushCalls, flushesOf_append, Nat.add_assoc]
  writes := by
    rw [h.writes, h'.writes, List.flatMap_append, List.append_assoc]
  flushes := by
    rw [h'.flushes, h.flushes, List.drop_drop, flushesOf_append]

theorem flush_eq (sink : Sink) :
    sink.flush = (sink.flushes.head?.bind FlushOutcome.fault?,
      { sink with flushes := sink.flushes.tail, flushCalls := sink.flushCalls + 1 }) := by
  unfold Sink.flush
  cases sink.flushes.head? with
  | none => rfl
  | some outcome => cases outcome <;> rfl

/-- A failed write ends the call, and nothing is flushed. -/
theorem writeFixture_of_cut {sink : Sink} {line : String} {failure : Failure}
    (h : (offer sink.writes (Text.encode line)).failure = some failure) :
    sink.writeFixture line = (.error (.io failure), (sink.writeAll (Text.encode line)).2) := by
  have hwrite : sink.writeAll (Text.encode line) =
      (some failure, (sink.writeAll (Text.encode line)).2) := Prod.ext h rfl
  rw [writeFixture, hwrite]

/-- Behind a whole line comes the flush, and the call ends as the flush does. -/
theorem writeFixture_of_whole {sink : Sink} {line : String}
    (h : (offer sink.writes (Text.encode line)).failure = none) :
    sink.writeFixture line =
      (match sink.flushes.head?.bind FlushOutcome.fault? with
        | none => .ok ()
        | some failure => .error (.io failure),
       { (sink.writeAll (Text.encode line)).2 with
         flushes := sink.flushes.tail
         flushCalls := sink.flushCalls + 1 }) := by
  have hwrite : sink.writeAll (Text.encode line) =
      (none, (sink.writeAll (Text.encode line)).2) := Prod.ext h rfl
  have hflush : (sink.writeAll (Text.encode line)).2.flush =
      (sink.flushes.head?.bind FlushOutcome.fault?,
        { (sink.writeAll (Text.encode line)).2 with
          flushes := sink.flushes.tail
          flushCalls := sink.flushCalls + 1 }) := flush_eq _
  rw [writeFixture, hwrite]
  simp only [hflush]
  cases sink.flushes.head?.bind FlushOutcome.fault? with
  | none => rfl
  | some failure => rfl

/-- The call on a line, when it uses these writes of the script. -/
def call (sink : Sink) (line : String) (used : List WriteOutcome) : Call :=
  ⟨line, used, (offer sink.writes (Text.encode line)).accepted⟩

section
variable {sink : Sink} {line : String} {used : List WriteOutcome}
  (h : (offer sink.writes (Text.encode line)).Accounts sink.writes (Text.encode line) used)
include h

theorem accounts_of_cut {failure : Failure}
    (hfailure : (offer sink.writes (Text.encode line)).failure = some failure) :
    Accounts [sink.call line used] sink (sink.writeFixture line).2 ∧
      ∀ flush, (sink.call line used).Ends flush (sink.writeFixture line).1 := by
  obtain ⟨hcut, hends⟩ := h.cut failure hfailure
  have hnot : ¬ (sink.call line used).Whole := hcut
  have hflushes : flushesOf [sink.call line used] = 0 := by simp [flushesOf, hnot]
  rw [writeFixture_of_cut hfailure]
  constructor
  · apply Accounts.singleton rfl
    · rw [hflushes]; rfl
    · exact h.script_eq
    · rw [hflushes]; rfl
  · intro flush
    refine ⟨h.isPrefix, fun hwhole => absurd hwhole hnot, by simp [hnot], ?_⟩
    intro e he
    obtain rfl := Except.error.inj he
    exact ⟨failure, rfl, (if_neg hnot).mpr hends⟩

theorem accounts_of_whole
    (hfailure : (offer sink.writes (Text.encode line)).failure = none) :
    Accounts [sink.call line used] sink (sink.writeFixture line).2 ∧
      (sink.call line used).Ends (sink.flushes.head?.bind FlushOutcome.fault?)
        (sink.writeFixture line).1 := by
  obtain ⟨hall, hnone⟩ := h.whole hfailure
  have hwhole : (sink.call line used).Whole := hall
  have hflushes : flushesOf [sink.call line used] = 1 := by simp [flushesOf, hwhole]
  rw [writeFixture_of_whole hfailure]
  constructor
  · apply Accounts.singleton rfl
    · rw [hflushes]
    · exact h.script_eq
    · rw [hflushes, List.drop_one]
  · cases hflush : sink.flushes.head?.bind FlushOutcome.fault? with
    | none =>
      exact ⟨h.isPrefix, fun _ => hnone, ⟨fun _ => ⟨hwhole, rfl⟩, fun _ => rfl⟩,
        fun _ he => nomatch he⟩
    | some failure =>
      refine ⟨h.isPrefix, fun _ => hnone, by simp, ?_⟩
      intro e he
      obtain rfl := Except.error.inj he
      exact ⟨failure, rfl, (if_pos hwhole).mpr rfl⟩

end

theorem accounts_writeFixture (sink : Sink) (line : String) :
    ∃ call : Call, call.line = line ∧
      Accounts [call] sink (sink.writeFixture line).2 ∧
      call.Ends (sink.flushes.head?.bind FlushOutcome.fault?) (sink.writeFixture line).1 := by
  obtain ⟨used, h⟩ := accounts_offer sink.writes (Text.encode line)
  refine ⟨sink.call line used, rfl, ?_⟩
  cases hfailure : (offer sink.writes (Text.encode line)).failure with
  | none => exact accounts_of_whole h hfailure
  | some failure =>
    obtain ⟨haccounts, hends⟩ := accounts_of_cut h hfailure
    exact ⟨haccounts, hends _⟩

/-! ## Many lines -/

theorem length_writeFixtures (sink : Sink) (lines : List String) :
    (sink.writeFixtures lines).length = lines.length := by
  induction lines generalizing sink with
  | nil => rfl
  | cons line lines ih => exact congrArg (· + 1) (ih _)

theorem exists_calls (sink : Sink) (lines : List String) :
    ∃ calls : List Call, calls.map Call.line = lines ∧
      ∀ n call result after, calls[n]? = some call →
        (sink.writeFixtures lines)[n]? = some (result, after) →
        Accounts (calls.take (n + 1)) sink after ∧
        call.Ends (sink.flushes[flushesOf (calls.take n)]?.bind FlushOutcome.fault?) result := by
  induction lines generalizing sink with
  | nil => exact ⟨[], rfl, fun n call result after h => nomatch h⟩
  | cons line lines ih =>
    obtain ⟨first, rfl, haccounts, hends⟩ := accounts_writeFixture sink line
    obtain ⟨calls, rfl, hcalls⟩ := ih (sink.writeFixture first.line).2
    refine ⟨first :: calls, rfl, ?_⟩
    intro n call result after hcall hafter
    cases n with
    | zero =>
      obtain rfl := Option.some.inj hcall
      obtain ⟨rfl, rfl⟩ := Prod.mk.inj (Option.some.inj hafter)
      refine ⟨haccounts, ?_⟩
      rw [List.head?_eq_getElem?] at hends
      exact hends
    | succ n =>
      obtain ⟨hrest, hend⟩ := hcalls n call result after hcall hafter
      refine ⟨haccounts.trans hrest, ?_⟩
      rw [haccounts.flushes, List.getElem?_drop, ← flushesOf_append] at hend
      exact hend

/-- Every call leaves a prefix of its line behind those of the calls before it.
    It is the whole line when no write failed, and then there was one flush. -/
theorem writeFixtures_calls (sink : Sink) (lines : List String) :
    (sink.writeFixtures lines).length = lines.length ∧
    ∃ calls : List Call, calls.map Call.line = lines ∧
      ∀ n call result after, calls[n]? = some call →
        (sink.writeFixtures lines)[n]? = some (result, after) →
        let flush := sink.flushes[(calls.take n).countP (·.Whole)]?.bind FlushOutcome.fault?
        call.part <+: Text.encode call.line ∧
        after.accepted = sink.accepted ++ (calls.take (n + 1)).flatMap Call.part ∧
        after.flushCalls = sink.flushCalls + (calls.take (n + 1)).countP (·.Whole) ∧
        sink.writes = (calls.take (n + 1)).flatMap Call.used ++ after.writes ∧
        (call.Whole → ∀ w ∈ call.used, w.fault? = none) ∧
        (result = .ok () ↔ call.Whole ∧ flush = none) ∧
        ∀ e, result = .error e → ∃ failure, e = .io failure ∧
          e.message = "failed to write fixture: " ++ failure.text ∧
          if call.Whole then flush = some failure else FailsLast call.used failure := by
  refine ⟨length_writeFixtures sink lines, ?_⟩
  obtain ⟨calls, hlines, hcalls⟩ := exists_calls sink lines
  refine ⟨calls, hlines, ?_⟩
  intro n call result after hcall hafter
  obtain ⟨haccounts, hends⟩ := hcalls n call result after hcall hafter
  refine ⟨hends.isPrefix, haccounts.accepted, haccounts.flushCalls, haccounts.writes, hends.used,
    hends.ok_iff, ?_⟩
  intro e he
  obtain ⟨failure, rfl, hfailure⟩ := hends.error e he
  exact ⟨failure, rfl, rfl, hfailure⟩

/-- The second byte is refused, and the next line goes on behind the first. -/
example : ((writeFixtures { writes := [.accept 1, .accept 0] } ["ab", "c"]).map fun written =>
    (written.1, written.2.accepted)) =
    [(.error (.io nothingAccepted), [97]), (.ok (), [97, 99])] := by rfl

end Sink

end Fixture
