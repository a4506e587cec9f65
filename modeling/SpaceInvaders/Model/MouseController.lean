/-
**The mouse's command interface**: `kbc_command_handler` of the mouse's `kb_controller.c`, and what it
calls.

The controller is outside the program: `Controller` answers the `n`-th read of the status register, the
`n`-th read of the output buffer and the `n`-th write. `Traffic` counts them, and keeps what was
written and which replies were read. The functions return 0 or 1; where a value comes with a 0, the
model returns it as an `Option`. The delays between the tries have no effect on what is sent.
-/

import SpaceInvaders.Lib.Loops
import SpaceInvaders.Model.Keyboard

namespace SpaceInvaders

/-! ### `i8042.h` of the mouse -/

def cmdArgsReg : Nat := 0x60
def cmdReg : Nat := 0x64

/-- The status bit of a full input buffer. -/
def kbcInpb : UInt8 := bit 1

def writeCmdB : UInt32 := 0x60
def writeBMouse : UInt32 := 0xD4
def mouseEnableReport : UInt32 := 0xF4

def ack : UInt8 := 0xFA
def nack : UInt8 := 0xFE
def mouseError : UInt8 := 0xFC

/-! ### The controller -/

/-- The answers of the ports, `STATUS_REG` and `OUT_BUF` read and the others written; `none` and `false`
are failed calls. -/
structure Controller where
  status : Nat → Option UInt32
  output : Nat → Option UInt32
  accepts : Nat → Bool

/-- What has passed between the program and the controller. -/
structure Traffic where
  statusReads : Nat
  outputReads : Nat
  writes : Nat
  sent : List (Nat × UInt32)
  replies : List UInt8

/-- Before the first call. -/
def Traffic.none : Traffic := ⟨0, 0, 0, [], []⟩

/-- One `sys_outb`. -/
def sysOutb (controller : Controller) (port : Nat) (value : UInt32) (traffic : Traffic) :
    Bool × Traffic :=
  if controller.accepts traffic.writes then
    (true, { traffic with
      writes := traffic.writes + 1
      sent := traffic.sent ++ [(port, value)] })
  else (false, { traffic with writes := traffic.writes + 1 })

/-- The function `kbc_read_status`. -/
def kbcReadStatus (controller : Controller) (traffic : Traffic) : Option UInt8 × Traffic :=
  ((controller.status traffic.statusReads).map UInt32.toUInt8,
    { traffic with statusReads := traffic.statusReads + 1 })

/-- The function `kbc_check_in_buf`. -/
def kbcCheckInBuf (controller : Controller) (traffic : Traffic) : Bool × Traffic :=
  match kbcReadStatus controller traffic with
  | (none, traffic) => (false, traffic)
  | (some status, traffic) => (status &&& kbcInpb = 0, traffic)

/-- The loop of the three functions below: at most `tries` times, the body runs once the input buffer is
free. -/
def whenFree {α : Type} (controller : Controller) (body : Traffic → Option α × Traffic) :
    (tries : Nat) → Traffic → Option α × Traffic
  | 0, traffic => (none, traffic)
  | tries + 1, traffic =>
    match kbcCheckInBuf controller traffic with
    | (true, traffic) => body traffic
    | (false, traffic) => whenFree controller body tries traffic

/-- A write as the body of such a loop. -/
def writeTo (controller : Controller) (port : Nat) (value : UInt32) (traffic : Traffic) :
    Option Unit × Traffic :=
  match sysOutb controller port value traffic with
  | (false, traffic) => (none, traffic)
  | (true, traffic) => (some (), traffic)

/-- The function `kbc_write_command`. -/
def kbcWriteCommand (controller : Controller) (cmd : UInt32) (traffic : Traffic) :
    Option Unit × Traffic :=
  whenFree controller (writeTo controller cmdReg cmd) 3 traffic

/-- The function `kbc_write_argument`. -/
def kbcWriteArgument (controller : Controller) (arg : UInt32) (traffic : Traffic) :
    Option Unit × Traffic :=
  whenFree controller (writeTo controller cmdArgsReg arg) 3 traffic

/-- The read of the answer in `mouse_write_command`. -/
def readAnswer (controller : Controller) (traffic : Traffic) : Option UInt8 × Traffic :=
  match controller.output traffic.outputReads with
  | none => (none, { traffic with outputReads := traffic.outputReads + 1 })
  | some output =>
    (some output.toUInt8, { traffic with
      outputReads := traffic.outputReads + 1
      replies := traffic.replies ++ [output.toUInt8] })

/-- The body of the loop of `mouse_write_command`. -/
def mouseSend (controller : Controller) (cmd : UInt32) (traffic : Traffic) : Option UInt8 × Traffic :=
  match sysOutb controller cmdArgsReg cmd traffic with
  | (false, traffic) => (none, traffic)
  | (true, traffic) => readAnswer controller traffic

/-- The function `mouse_write_command`, with its answer. -/
def mouseWriteCommand (controller : Controller) (cmd : UInt32) (traffic : Traffic) :
    Option UInt8 × Traffic :=
  whenFree controller (mouseSend controller cmd) 3 traffic

/-! ### The handler -/

/-- The test of the `do … while` loop, and the return behind it. -/
def whileTries (tries : Nat) (traffic : Traffic) : (Nat × Traffic) ⊕ (Int × Traffic) :=
  if tries < 3 then .inl (tries, traffic) else .inr (1, traffic)

/-- What the loop does with an answer of the mouse. -/
def handleAnswer (ans : UInt8) (tries : Nat) (traffic : Traffic) :
    (Nat × Traffic) ⊕ (Int × Traffic) :=
  if ans = ack then .inr (0, traffic)
  else if ans = nack then whileTries (tries + 1) traffic
  else if ans = mouseError then .inr (1, traffic)
  else whileTries tries traffic

/-- One round of the loop of `kbc_command_handler`. -/
def commandRound (controller : Controller) (cmd arg : UInt32) :
    Nat × Traffic → (Nat × Traffic) ⊕ (Int × Traffic)
  | (tries, traffic) =>
    match kbcWriteCommand controller cmd traffic with
    | (none, traffic) => .inr (1, traffic)
    | (some (), traffic) =>
      if cmd = writeBMouse then
        match mouseWriteCommand controller arg traffic with
        | (none, traffic) => .inr (1, traffic)
        | (some ans, traffic) => handleAnswer ans tries traffic
      else if cmd = writeCmdB then
        match kbcWriteArgument controller arg traffic with
        | (none, traffic) => .inr (1, traffic)
        | (some (), traffic) => .inr (0, traffic)
      else whileTries tries traffic

/-- The function `kbc_command_handler`, with a bound on its rounds: its return value and the traffic, or
`none` while it still runs. -/
def kbcCommandHandler (controller : Controller) (cmd arg : UInt32) (fuel : Nat) :
    Option (Int × Traffic) :=
  Loops.run (commandRound controller cmd arg) fuel (0, .none)

/-- A controller that is always free and whose mouse always gives the same answer. -/
def Controller.answering (answer : UInt8) : Controller :=
  ⟨fun _ => some 0, fun _ => some answer.toUInt32, fun _ => true⟩

example : (kbcCommandHandler (.answering ack) writeBMouse mouseEnableReport 1).map Prod.fst = some 0 := by
  decide

end SpaceInvaders
