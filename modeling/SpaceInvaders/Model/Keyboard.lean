/-
**The keyboard controller driver**: `kb_controller.c`, `kb_interrupts.c`, `utils.c`.

The machine's ports are outside the program. `Ports` answers the `n`-th `sys_inb` call made while
one keyboard notification is handled, at the port it addresses; `none` is a failed call.
`readKeyboardOutput` returns its C return value together with `*output`, which it may already have
overwritten when it fails.
-/

import Mathlib.Data.UInt

namespace SpaceInvaders

/-- The macro `BIT(n)`, on a byte. -/
def bit (n : UInt8) : UInt8 := 1 <<< n

/-! ### `i8042.h` -/

def keyboardStatus : Nat := 0x64
def keyboardOutCmd : Nat := 0x60

def kbA : UInt8 := 0x1E
def kbD : UInt8 := 0x20
def kbSpace : UInt8 := 0x39
def kbEnter : UInt8 := 0x1C
def kbUpArrow : UInt8 := 0x48
def kbDownArrow : UInt8 := 0x50

/-- The break code of the escape key. -/
def kbBreakEsc : UInt8 := 0x81

/-- The mask of break codes. -/
def kbBreakCode : UInt8 := bit 7

/-! ### Reading the output buffer -/

/-- Answers of `sys_inb`: by the number of the call and the port it reads. -/
abbrev Ports := Nat → Nat → Option UInt32

/-- One `util_sys_inb`: the low byte of the port's answer. -/
def utilSysInb (ports : Ports) (call port : Nat) : Option UInt8 :=
  (ports call port).map UInt32.toUInt8

/-- The error tests of `read_keyboard_output` after the data byte was read: parity, timeout, and
the byte's source. -/
def checkKeyboardOutput (status : UInt8) (mouse : Bool) : Int :=
  if status &&& bit 7 ≠ 0 then 1
  else if status &&& bit 6 ≠ 0 then 1
  else
    let isKeyboardOutput := status &&& bit 5 = 0
    if (mouse ∧ isKeyboardOutput) ∨ (¬ mouse ∧ ¬ isKeyboardOutput) then 1 else 0

/-- The polling loop of `read_keyboard_output`, with `trys` polls left and `call` ports read so
far: the return value and `*output`. -/
def pollKeyboardOutput (ports : Ports) (port : Nat) (mouse : Bool) :
    (trys call : Nat) → (output : UInt8) → Int × UInt8
  | 0, _, output => (1, output)
  | trys + 1, call, output =>
    match utilSysInb ports call keyboardStatus with
    | none => (1, output)
    | some status =>
      if status &&& bit 0 ≠ 0 then
        match utilSysInb ports (call + 1) port with
        | none => (1, output)
        -- the byte is stored through `output` before the error tests
        | some data => (checkKeyboardOutput status mouse, data)
      else pollKeyboardOutput ports port mouse trys (call + 1) output

/-- The function `read_keyboard_output`: ten polls of the status port. -/
def readKeyboardOutput (ports : Ports) (port : Nat) (output : UInt8) (mouse : Bool) : Int × UInt8 :=
  pollKeyboardOutput ports port mouse 10 0 output

/-- The handler `kbc_ih`: the scancode afterwards. The return value is only printed. -/
def kbcIh (ports : Ports) (scancode : UInt8) : UInt8 :=
  (readKeyboardOutput ports keyboardOutCmd scancode false).2

/-- The read inside `kbc_ih` fails. -/
def ReadFails (ports : Ports) (scancode : UInt8) : Prop :=
  (readKeyboardOutput ports keyboardOutCmd scancode false).1 ≠ 0

instance (ports : Ports) (scancode : UInt8) : Decidable (ReadFails ports scancode) :=
  inferInstanceAs (Decidable (_ ≠ _))

/-- A controller that holds one keyboard byte, without errors. -/
def delivers (byte : UInt8) : Ports := fun _ port =>
  some (if port = keyboardStatus then (bit 0).toUInt32 else byte.toUInt32)

/-- A delivered byte is the scancode, whatever it was before. -/
theorem kbcIh_delivers (byte scancode : UInt8) : kbcIh (delivers byte) scancode = byte := by
  simp [kbcIh, readKeyboardOutput, pollKeyboardOutput, utilSysInb, delivers, keyboardStatus,
    keyboardOutCmd, bit]

/-! ### The byte that reaches the output buffer -/

/-- The data byte the polling loop reads, if it comes to read one. -/
def polledByte (ports : Ports) (port : Nat) : (trys call : Nat) → Option UInt8
  | 0, _ => none
  | trys + 1, call =>
    match utilSysInb ports call keyboardStatus with
    | none => none
    | some status =>
      if status &&& bit 0 ≠ 0 then utilSysInb ports (call + 1) port
      else polledByte ports port trys (call + 1)

/-- The loop leaves the polled byte in `*output`, and leaves `*output` alone without one. -/
theorem pollKeyboardOutput_snd (ports : Ports) (port : Nat) (mouse : Bool) (trys call : Nat)
    (output : UInt8) :
    (pollKeyboardOutput ports port mouse trys call output).2 =
      (polledByte ports port trys call).getD output := by
  induction trys generalizing call with
  | zero => rfl
  | succ trys ih =>
    unfold pollKeyboardOutput polledByte
    cases utilSysInb ports call keyboardStatus with
    | none => rfl
    | some status =>
      by_cases full : status &&& bit 0 ≠ 0
      · simp only [if_pos full]
        cases utilSysInb ports (call + 1) port <;> rfl
      · simp only [if_neg full]
        exact ih (call + 1)

/-- The byte one keyboard interrupt takes from the data port. -/
def receivedByte (ports : Ports) : Option UInt8 := polledByte ports keyboardOutCmd 10 0

theorem kbcIh_eq (ports : Ports) (scancode : UInt8) :
    kbcIh ports scancode = (receivedByte ports).getD scancode :=
  pollKeyboardOutput_snd ports keyboardOutCmd false 10 0 scancode

end SpaceInvaders
