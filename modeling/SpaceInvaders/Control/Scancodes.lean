/-
**The scancodes of the keyboard tests.**

A scancode is a byte, or the byte `0xE0` with the byte behind it. `PrintsCodes received printed` says that the
printed codes are the received bytes cut up in that way. The tests print every byte at once, and `0xE0` with
a second byte that was not received.

* `printed_eq`: each received byte is printed by one call, in all three tests;
* `printsCodes_iff`, `tests_printCodes_iff`: so the calls are the codes exactly when no `0xE0` is received;
* `not_printsCodes_arrow`: an arrow key.
-/

import SpaceInvaders.Lib.Framing
import SpaceInvaders.Model.KeyboardTests

namespace SpaceInvaders

namespace Lab

open Framing

/-! ### What the tests are for -/

/-- A code ends with its first byte, unless that is `0xE0`, and else with its second one. -/
def codeComplete (bytes : List UInt8) : Bool := bytes.head? ≠ some kbTwoBytes ∨ bytes.length = 2

/-- The call for a code: a make code has bit 7 of its last byte clear. -/
def codeCall (bytes : List UInt8) : PrintCall :=
  ⟨bytes.getLastD 0 &&& kbMakeCode = 0, bytes.length, bytes⟩

/-- The printed calls are those of the codes of the received bytes; every byte may start a code. -/
def PrintsCodes (received : List UInt8) (printed : List PrintCall) : Prop :=
  ∃ frames pending, Framed (fun _ => true) codeComplete received frames pending ∧
    printed = frames.map codeCall

/-! ### One call for each byte -/

/-- The bytes of the calls are at least as many as the calls, and more when one of them is of size 2. -/
theorem length_le_flatten (behind : UInt8) (received : List UInt8) :
    received.length + (if kbTwoBytes ∈ received then 1 else 0) ≤
      ((received.map (printScancode behind)).map PrintCall.bytes).flatten.length := by
  induction received with
  | nil => exact Nat.le_refl 0
  | cons byte received ih =>
    rw [List.map_cons, List.map_cons, List.flatten_cons, List.length_append, List.length_cons]
    by_cases two : byte = kbTwoBytes
    · have size : (printScancode behind byte).bytes.length = 2 := by
        rw [printScancode, if_pos two]
        rfl
      rw [if_pos (by rw [two]; exact List.mem_cons_self), size]
      split at ih <;> omega
    · have size : (printScancode behind byte).bytes.length = 1 := by
        rw [printScancode, if_neg two]
        rfl
      have same : kbTwoBytes ∈ byte :: received ↔ kbTwoBytes ∈ received := by
        rw [List.mem_cons]
        exact ⟨fun member => member.resolve_left (Ne.symm two), Or.inr⟩
      rw [size]
      simp only [same]
      omega

/-- Without `0xE0` the codes are the bytes. -/
theorem cut_singles {received : List UInt8} (plain : kbTwoBytes ∉ received) :
    cut (fun _ => true) codeComplete received = (received.map fun byte => [byte], []) := by
  induction received using List.reverseRecOn with
  | nil => rfl
  | append_singleton received byte ih =>
    have before : kbTwoBytes ∉ received := fun member => plain (List.mem_append_left _ member)
    have different : some byte ≠ some kbTwoBytes := by
      intro same
      exact plain (by rw [Option.some.inj same]; exact List.mem_append_right _ List.mem_cons_self)
    have done : codeComplete ([] ++ [byte]) := decide_eq_true (.inl different)
    rw [cut_snoc, ih before, push_complete _ (fun _ => rfl) done, List.map_append]
    rfl

/-- **Calls for single bytes are the codes exactly when no `0xE0` is received.** -/
theorem printsCodes_iff (behind : UInt8) (received : List UInt8) :
    PrintsCodes received (received.map (printScancode behind)) ↔ kbTwoBytes ∉ received := by
  constructor
  · rintro ⟨frames, pending, framed, same⟩ member
    -- the calls have more bytes than were received
    have more := length_le_flatten behind received
    have within := framed.flatten_sublist.length_le
    have bytes : (frames.map codeCall).map PrintCall.bytes = frames := by
      rw [List.map_map]
      exact List.map_id frames
    rw [same, bytes, if_pos member] at more
    rw [List.length_append] at within
    omega
  · intro plain
    refine ⟨_, _, framed_iff_cut.mpr (cut_singles plain), ?_⟩
    rw [List.map_map]
    refine List.map_congr_left fun byte member => ?_
    have single : byte ≠ kbTwoBytes := fun same => plain (same ▸ member)
    rw [printScancode, if_neg single]
    rfl

/-! ### The three tests -/

/-- A keyboard interrupt comes with a byte in the output buffer. -/
def LabReceive.Delivers : LabReceive → Prop
  | .hardware (some ports) _ => (receivedByte ports).isSome
  | _ => True

/-- A poll that fails has found no byte. -/
def PollDelivers (ports : Ports) : Prop := ∀ scancode, ReadFails ports scancode → receivedByte ports = none

/-- Each received byte has been printed by one call. -/
def PrintedEach (behind : UInt8) (test : KbdTest) : Prop :=
  test.printed = test.received.map (printScancode behind)

/-- A keyboard interrupt with a byte prints it. -/
theorem PrintedEach.keyboard {behind : UInt8} {ports : Ports} {test : KbdTest}
    (each : PrintedEach behind test) (delivers : (receivedByte ports).isSome) :
    PrintedEach behind (test.keyboard behind ports) := by
  obtain ⟨byte, taken⟩ := Option.isSome_iff_exists.mp delivers
  have scancode : kbcIh ports test.scancode = byte := by rw [kbcIh_eq, taken, Option.getD_some]
  show test.printed ++ [printScancode behind (kbcIh ports test.scancode)] =
    (test.received ++ (receivedByte ports).toList).map (printScancode behind)
  rw [each, scancode, taken, List.map_append]
  rfl

theorem PrintedEach.scanLoop {behind : UInt8} {test : KbdTest} (finish : Int)
    (each : PrintedEach behind test) : PrintedEach behind (scanLoop finish test) := by
  unfold Lab.scanLoop
  split <;> exact each

theorem PrintedEach.timedLoop {behind n : UInt8} {test : TimedTest} (finish : Int)
    (each : PrintedEach behind test.toKbdTest) :
    PrintedEach behind (timedLoop n finish test).toKbdTest := by
  unfold Lab.timedLoop
  split <;> exact each

/-- One round of `kbd_test_scan`. -/
theorem PrintedEach.scanStep {behind : UInt8} {finish : Int} {test : KbdTest} {receive : LabReceive}
    (each : PrintedEach behind test) (delivers : receive.Delivers) :
    PrintedEach behind (scanStep behind finish test receive) := by
  unfold Lab.scanStep
  split
  · exact (each.keyboard delivers).scanLoop finish
  · exact each.scanLoop finish
  · exact each

/-- A successful poll has taken a byte. -/
theorem receivedByte_of_poll {ports : Ports} {port : Nat} {mouse : Bool} {output : UInt8}
    {trys call : Nat} (passed : (pollKeyboardOutput ports port mouse trys call output).1 = 0) :
    (polledByte ports port trys call).isSome := by
  induction trys generalizing call with
  | zero => cases passed
  | succ trys ih =>
    unfold pollKeyboardOutput at passed
    unfold polledByte
    cases status : utilSysInb ports call keyboardStatus with
    | none =>
      rw [status] at passed
      cases passed
    | some value =>
      rw [status] at passed
      by_cases full : value &&& bit 0 ≠ 0
      · simp only [if_pos full] at passed ⊢
        cases data : utilSysInb ports (call + 1) port with
        | none =>
          rw [data] at passed
          cases passed
        | some byte => rfl
      · simp only [if_neg full] at passed ⊢
        exact ih passed

/-- One round of `kbd_test_poll`. -/
theorem PrintedEach.pollStep {behind : UInt8} {finish : Int} {test : KbdTest} {ports : Ports}
    (each : PrintedEach behind test) (delivers : PollDelivers ports) :
    PrintedEach behind (pollStep behind finish test ports) := by
  unfold Lab.pollStep
  split
  · split
    · next passed => exact (each.keyboard (receivedByte_of_poll passed)).scanLoop finish
    · next failed =>
      refine PrintedEach.scanLoop finish ?_
      have nothing := delivers test.scancode failed
      show test.printed = (test.received ++ (receivedByte ports).toList).map (printScancode behind)
      rw [nothing, Option.toList_none, List.append_nil]
      exact each
  · exact each

/-- One round of `kbd_test_timed_scan`. -/
theorem PrintedEach.timedStep {behind n : UInt8} {finish : Int} {test : TimedTest}
    {receive : LabReceive} (each : PrintedEach behind test.toKbdTest) (delivers : receive.Delivers) :
    PrintedEach behind (timedStep behind n finish test receive).toKbdTest := by
  unfold Lab.timedStep
  split
  · next keyboard timer _ =>
    refine PrintedEach.timedLoop finish ?_
    unfold TimedTest.onHardware
    cases keyboard with
    | none => cases timer <;> exact each
    | some ports => cases timer <;> exact each.keyboard delivers
  · exact each.timedLoop finish
  · exact each

/-- **The three tests print the codes of the bytes they receive exactly when no `0xE0` is among
them.** -/
theorem tests_printCodes_iff (behind : UInt8) (finish : Int) (scancode : UInt8) :
    (∀ receives : List LabReceive, (∀ receive ∈ receives, receive.Delivers) →
      let test := Runs.run (scanStep behind finish) (kbdTestScan finish scancode) receives
      PrintsCodes test.received test.printed ↔ kbTwoBytes ∉ test.received) ∧
    (∀ polls : List Ports, (∀ ports ∈ polls, PollDelivers ports) →
      let test := Runs.run (pollStep behind finish) (kbdTestPoll finish scancode) polls
      PrintsCodes test.received test.printed ↔ kbTwoBytes ∉ test.received) ∧
    ∀ n counter, ∀ receives : List LabReceive, (∀ receive ∈ receives, receive.Delivers) →
      let test := Runs.run (timedStep behind n finish) (kbdTestTimedScan n finish scancode counter) receives
      PrintsCodes test.received test.printed ↔ kbTwoBytes ∉ test.received := by
  have iff : ∀ test : KbdTest, PrintedEach behind test →
      (PrintsCodes test.received test.printed ↔ kbTwoBytes ∉ test.received) := by
    intro test each
    rw [each]
    exact printsCodes_iff behind test.received
  refine ⟨fun receives deliver => iff _ ?_, fun polls deliver => iff _ ?_,
    fun n counter receives deliver => iff _ ?_⟩
  · have kept : ∀ (test : KbdTest) (receive : LabReceive), PrintedEach behind test → receive.Delivers →
        PrintedEach behind (scanStep behind finish test receive) :=
      fun _ _ each delivers => each.scanStep delivers
    have start : PrintedEach behind (kbdTestScan finish scancode) := PrintedEach.scanLoop finish rfl
    exact Runs.run_kept kept start (Runs.along_of_forall deliver)
  · have kept : ∀ (test : KbdTest) (ports : Ports), PrintedEach behind test → PollDelivers ports →
        PrintedEach behind (pollStep behind finish test ports) :=
      fun _ _ each delivers => each.pollStep delivers
    have start : PrintedEach behind (kbdTestPoll finish scancode) := PrintedEach.scanLoop finish rfl
    exact Runs.run_kept kept start (Runs.along_of_forall deliver)
  · have kept : ∀ (test : TimedTest) (receive : LabReceive), PrintedEach behind test.toKbdTest →
        receive.Delivers → PrintedEach behind (timedStep behind n finish test receive).toKbdTest :=
      fun _ _ each delivers => each.timedStep delivers
    have start : PrintedEach behind (kbdTestTimedScan n finish scancode counter).toKbdTest :=
      PrintedEach.timedLoop finish rfl
    exact Runs.run_kept kept start (Runs.along_of_forall deliver)

/-- The keyboard interrupts of a stream of bytes. -/
def keystrokes (bytes : List UInt8) : List LabReceive :=
  bytes.map fun byte => .hardware (some (delivers byte)) false

/-- A plain key is printed as the codes of its make and its break. -/
theorem tests_printCodes_plain :
    let test := Runs.run (scanStep 0 0) (kbdTestScan 0 0) (keystrokes [0x1E, 0x9E])
    test.received = [0x1E, 0x9E] ∧ PrintsCodes test.received test.printed := by
  refine ⟨by decide, ((tests_printCodes_iff 0 0 0).1 (keystrokes [0x1E, 0x9E]) ?_).mpr (by decide)⟩
  intro receive member
  obtain ⟨byte, -, rfl⟩ := List.mem_map.mp member
  show (receivedByte (delivers byte)).isSome
  simp [receivedByte, polledByte, utilSysInb, delivers, keyboardStatus, bit]

/-- An arrow key: its first byte is printed at once, with a byte that was not received. -/
theorem not_printsCodes_arrow :
    let test := Runs.run (scanStep 0 0) (kbdTestScan 0 0) (keystrokes [0xE0, 0x48])
    test.received = [0xE0, 0x48] ∧
    test.printed = [⟨false, 2, [0xE0, 0]⟩, ⟨true, 1, [0x48]⟩] ∧
    ¬ PrintsCodes test.received test.printed := by
  have each : PrintedEach 0 (Runs.run (scanStep 0 0) (kbdTestScan 0 0) (keystrokes [0xE0, 0x48])) := by
    unfold PrintedEach
    decide
  refine ⟨by decide, by decide, fun codes => ?_⟩
  rw [each] at codes
  exact (printsCodes_iff 0 _).mp codes (by decide)

end Lab

end SpaceInvaders
