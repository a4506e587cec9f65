/-
**Restoring the keyboard's settings**: `kb_restore_settings` of `kb_interrupts.c`, with
`write_keyboard_command` and `read_keyboard_output` on a controller that has a state.

`Kbc` holds the bytes of the output buffer, first the one that is read next, and the command byte; the
command `0x20` puts the command byte behind them, the command `0x60` makes the next data byte the command
byte. Port calls are numbered, and `Timing` says of each whether it fails and what the status register
is. The register's bit 0 can be set only while the buffer holds a byte.
-/

import SpaceInvaders.Lib.Polling
import SpaceInvaders.Model.Keyboard

namespace SpaceInvaders

/-! ### `i8042.h`, continued -/

def keyboardInCmd : Nat := 0x64
def keyboardReadCmd : UInt8 := 0x20

/-- A command, and the port of its argument. -/
def keyboardWriteCmd : UInt8 := 0x60

def inBufferFull : UInt8 := bit 1

/-! ### The controller -/

/-- The controller's output buffer and command byte. `replaces`: the next data byte written is the
command byte. `calls` counts the port calls. -/
structure Kbc where
  output : List UInt8
  commandByte : UInt8
  replaces : Bool
  calls : Nat
deriving DecidableEq

/-- The status register at each port call, or `none` for a call that fails. -/
abbrev Timing := Nat → Option UInt8

namespace Kbc

/-- A port call that leaves the controller as it is. -/
def tick (kbc : Kbc) : Kbc := { kbc with calls := kbc.calls + 1 }

/-- The status register as it is read: bit 0 stands for a byte in the buffer. -/
def seen (kbc : Kbc) (status : UInt8) : UInt8 :=
  if kbc.output = [] then status &&& ~~~bit 0 else status

/-- What a written byte does. -/
def write (port : Nat) (value : UInt8) (kbc : Kbc) : Kbc :=
  if port = keyboardInCmd then
    if value = keyboardReadCmd then { kbc with output := kbc.output ++ [kbc.commandByte] }
    else if value = keyboardWriteCmd then { kbc with replaces := true }
    else kbc
  else if kbc.replaces then { kbc with commandByte := value, replaces := false }
  else kbc

/-- One `sys_inb`. Reading the data port takes the first byte of the buffer. -/
def sysInb (timing : Timing) (port : Nat) (kbc : Kbc) : Option UInt32 × Kbc :=
  match timing kbc.calls with
  | none => (none, kbc.tick)
  | some status =>
    if port = keyboardStatus then (some (kbc.seen status).toUInt32, kbc.tick)
    else (some (kbc.output.headD 0).toUInt32, { kbc.tick with output := kbc.output.tail })

/-- One `sys_outb`: whether it succeeds. -/
def sysOutb (timing : Timing) (port : Nat) (value : UInt8) (kbc : Kbc) : Bool × Kbc :=
  match timing kbc.calls with
  | none => (false, kbc.tick)
  | some _ => (true, kbc.tick.write port value)

/-- The function `util_sys_inb`. -/
def utilSysInb (timing : Timing) (port : Nat) (kbc : Kbc) : Option UInt8 × Kbc :=
  ((kbc.sysInb timing port).1.map UInt32.toUInt8, (kbc.sysInb timing port).2)

/-! ### The helpers -/

/-- The loop of the two helpers below, with `trys` polls left: the first status that is `ready`, at
which the body returns, or `none` when a poll fails or all are used. -/
def pollStatus (timing : Timing) (ready : UInt8 → Prop) [DecidablePred ready] :
    (trys : Nat) → Kbc → Option UInt8 × Kbc
  | 0, kbc => (none, kbc)
  | trys + 1, kbc =>
    match kbc.utilSysInb timing keyboardStatus with
    | (none, kbc) => (none, kbc)
    | (some status, kbc) =>
      if ready status then (some status, kbc) else pollStatus timing ready trys kbc

/-- The test for a full output buffer. -/
def OutputFull (status : UInt8) : Prop := status &&& bit 0 ≠ 0

/-- The test for an empty input buffer. -/
def InputFree (status : UInt8) : Prop := status &&& inBufferFull = 0

instance : DecidablePred OutputFull := fun _ => inferInstanceAs (Decidable (_ ≠ _))

instance : DecidablePred InputFree := fun _ => inferInstanceAs (Decidable (_ = _))

/-- The function `read_keyboard_output`: its return value and `*output`. -/
def readKeyboardOutput (timing : Timing) (port : Nat) (output : UInt8) (mouse : Bool) (kbc : Kbc) :
    Int × UInt8 × Kbc :=
  match kbc.pollStatus timing OutputFull 10 with
  | (none, kbc) => (1, output, kbc)
  | (some status, kbc) =>
    match kbc.utilSysInb timing port with
    | (none, kbc) => (1, output, kbc)
    | (some data, kbc) => (checkKeyboardOutput status mouse, data, kbc)

/-- The function `write_keyboard_command`. -/
def writeKeyboardCommand (timing : Timing) (port : Nat) (command : UInt8) (kbc : Kbc) : Int × Kbc :=
  match kbc.pollStatus timing InputFree 10 with
  | (none, kbc) => (1, kbc)
  | (some _, kbc) =>
    match kbc.sysOutb timing port command with
    | (false, kbc) => (1, kbc)
    | (true, kbc) => (0, kbc)

/-- The function `kb_restore_settings`; `configByte` is what the variable holds before it is read. -/
def kbRestoreSettings (timing : Timing) (configByte : UInt8) (kbc : Kbc) : Int × Kbc :=
  let (code, kbc) := kbc.writeKeyboardCommand timing keyboardInCmd keyboardReadCmd
  if code ≠ 0 then (1, kbc)
  else
    let (code, configByte, kbc) := kbc.readKeyboardOutput timing keyboardOutCmd configByte false
    if code ≠ 0 then (1, kbc)
    else
      let configByte := configByte ||| bit 0
      let (code, kbc) := kbc.writeKeyboardCommand timing keyboardInCmd keyboardWriteCmd
      if code ≠ 0 then (1, kbc)
      else
        let (done, kbc) := kbc.sysOutb timing keyboardWriteCmd.toNat configByte
        if done then (0, kbc) else (1, kbc)

/-! ### Single calls -/

variable {timing : Timing} {kbc later : Kbc}

theorem write_argument {value : UInt8} (asked : kbc.replaces = true) :
    write keyboardWriteCmd.toNat value kbc =
      { kbc with commandByte := value, replaces := false } := if_pos asked

/-- A poll of the status register. -/
theorem utilSysInb_status :
    kbc.utilSysInb timing keyboardStatus = ((timing kbc.calls).map kbc.seen, kbc.tick) := by
  unfold utilSysInb sysInb
  cases timing kbc.calls with
  | none => rfl
  | some status => simp

/-- A read of the data port takes the first byte. -/
theorem utilSysInb_data {byte : UInt8} {rest : List UInt8} (holds : kbc.output = byte :: rest)
    {status : UInt8} (succeeds : timing kbc.calls = some status) :
    kbc.utilSysInb timing keyboardOutCmd = (some byte, { kbc.tick with output := rest }) := by
  simp [utilSysInb, sysInb, succeeds, holds, keyboardOutCmd, keyboardStatus]

theorem utilSysInb_failed {port : Nat} (fails : timing kbc.calls = none) :
    kbc.utilSysInb timing port = (none, kbc.tick) := by
  simp [utilSysInb, sysInb, fails]

/-- **The polling loop**: it ends well at the first ready status of its polls, and meanwhile only the
calls are counted. The test must be one that the buffer has no part in. -/
theorem pollStatus_eq_some_iff {ready : UInt8 → Prop} [DecidablePred ready] {trys : Nat}
    {status : UInt8} (same : ∀ status, ready (kbc.seen status) ↔ ready status) :
    kbc.pollStatus timing ready trys = (some status, later) ↔
      ∃ call answer, Polling.FirstReady timing ready kbc.calls trys call answer ∧
        status = kbc.seen answer ∧ later = { kbc with calls := call + 1 } := by
  induction trys generalizing kbc with
  | zero =>
    constructor
    · exact fun ended => by cases ended
    · rintro ⟨call, answer, first, _⟩
      exact absurd first Polling.not_firstReady_zero
  | succ trys ih =>
    simp only [Polling.firstReady_succ_iff]
    rw [pollStatus, utilSysInb_status]
    cases timing kbc.calls with
    | none => simp
    | some now =>
      by_cases isReady : ready now
      · simp [isReady, same, tick, eq_comm]
      · -- the loop goes on behind a call that leaves the controller alone
        have goesOn := @ih kbc.tick same
        simp only [Option.map_some, isReady, same, if_false, goesOn, Option.some.injEq,
          exists_eq_left', not_false_eq_true, true_and, false_and, false_or]
        exact Iff.rfl

/-! ### One read, by its answers -/

/-- The controller some calls later, if they leave it alone. -/
def after (calls : Nat) (kbc : Kbc) : Kbc := { kbc with calls := kbc.calls + calls }

theorem after_zero : kbc.after 0 = kbc := rfl

/-- The controller's answers to the calls of one read; what it holds changes with the last one only. -/
def ports (timing : Timing) (kbc : Kbc) : Ports := fun call port =>
  ((kbc.after call).sysInb timing port).1

theorem utilSysInb_ports (call port : Nat) :
    SpaceInvaders.utilSysInb (kbc.ports timing) call port =
      ((kbc.after call).utilSysInb timing port).1 := rfl

/-- The loop with the body at its end, on the answers and on the controller. -/
theorem pollKeyboardOutput_ports (port : Nat) (mouse : Bool) (trys call : Nat) (output : UInt8) :
    pollKeyboardOutput (kbc.ports timing) port mouse trys call output =
      match (kbc.after call).pollStatus timing OutputFull trys with
      | (none, _) => (1, output)
      | (some status, later) =>
        match (later.utilSysInb timing port).1 with
        | none => (1, output)
        | some data => (checkKeyboardOutput status mouse, data) := by
  induction trys generalizing call with
  | zero => rfl
  | succ trys ih =>
    rw [pollKeyboardOutput, pollStatus, utilSysInb_ports, utilSysInb_status]
    cases timing (kbc.after call).calls with
    | none => rfl
    | some status =>
      simp only [Option.map_some]
      by_cases full : (kbc.after call).seen status &&& bit 0 ≠ 0
      · have ready : OutputFull ((kbc.after call).seen status) := full
        rw [if_pos full, if_pos ready]
        rfl
      · have waits : ¬ OutputFull ((kbc.after call).seen status) := full
        rw [if_neg full, if_neg waits, ih]
        rfl

/-- **The two models of a read agree**: on the controller's answers `read_keyboard_output` returns the
same with and without the controller's state. -/
theorem readKeyboardOutput_ports (port : Nat) (output : UInt8) (mouse : Bool) :
    SpaceInvaders.readKeyboardOutput (kbc.ports timing) port output mouse =
      ((kbc.readKeyboardOutput timing port output mouse).1,
        (kbc.readKeyboardOutput timing port output mouse).2.1) := by
  rw [SpaceInvaders.readKeyboardOutput, pollKeyboardOutput_ports, after_zero, readKeyboardOutput]
  obtain ⟨_ | status, later⟩ := kbc.pollStatus timing OutputFull 10
  · rfl
  · simp only
    obtain ⟨_ | data, final⟩ := later.utilSysInb timing port
    · rfl
    · rfl

end Kbc

end SpaceInvaders
