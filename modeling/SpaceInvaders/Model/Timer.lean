/-
**The programmable timer**: `timer_set_frequency` and `timer_get_conf` of `timer.c`, with the byte functions
of `utils.c`.

The ports are outside the program: `PortBus` answers the `n`-th port call. The functions return the calls
they have made, failed ones included. The tests for `NULL` are of pointers to locals and never hold.
-/

import SpaceInvaders.Model.Keyboard

namespace SpaceInvaders

namespace Timer

/-! ### `i8254.h` -/

def timerFreq : UInt32 := 1193182

def timer0 : Nat := 0x40
def timer1 : Nat := 0x41
def timer2 : Nat := 0x42
def timerCtrl : Nat := 0x43

def timerSel0 : UInt8 := 0x00
def timerSel1 : UInt8 := bit 6
def timerSel2 : UInt8 := bit 7
def timerRbCmd : UInt8 := bit 7 ||| bit 6

def timerLsb : UInt8 := bit 4
def timerMsb : UInt8 := bit 5
def timerLsbMsb : UInt8 := timerLsb ||| timerMsb

def timerRbCount : UInt8 := bit 5
def timerRbSel (n : UInt8) : UInt8 := bit (n + 1)

/-! ### Ports -/

/-- A call of `sys_outb` or `sys_inb`. -/
inductive PortCall
  | outb (port : Nat) (value : UInt32)
  | inb (port : Nat)
deriving DecidableEq

/-- The answers to the calls, by their number; `false` and `none` are failed calls. -/
structure PortBus where
  accepts : Nat → Bool
  answers : Nat → Option UInt32

/-- One `sys_outb`. -/
def sysOutb (bus : PortBus) (port : Nat) (value : UInt32) (calls : List PortCall) :
    Bool × List PortCall :=
  (bus.accepts calls.length, calls ++ [.outb port value])

/-- The function `util_sys_inb`. -/
def utilSysInb (bus : PortBus) (port : Nat) (calls : List PortCall) : Option UInt8 × List PortCall :=
  ((bus.answers calls.length).map fun value => (value &&& 0xff).toUInt8, calls ++ [.inb port])

/-! ### `utils.c` -/

/-- The function `util_get_LSB`. -/
def utilGetLSB (val : UInt16) : UInt8 := (val &&& 0xff).toUInt8

/-- The function `util_get_MSB`. -/
def utilGetMSB (val : UInt16) : UInt8 := (val >>> 8).toUInt8

/-! ### `timer.c` -/

/-- The read-back command of `timer_get_conf`. -/
def readBackCommand (timer : UInt8) : UInt8 := timerRbCmd ||| timerRbCount ||| timerRbSel timer

/-- The function `timer_get_conf`, with the status it stores. -/
def timerGetConf (bus : PortBus) (timer : UInt8) (calls : List PortCall) :
    Option UInt8 × List PortCall :=
  if timer > 2 then (none, calls)
  else
    match sysOutb bus timerCtrl (readBackCommand timer).toUInt32 calls with
    | (false, calls) => (none, calls)
    | (true, calls) => utilSysInb bus (timer0 + timer.toNat) calls

/-- The `switch` of `timer_set_frequency`: the selection bits and the port of the timer. -/
def selectTimer : UInt8 → Option (UInt8 × Nat)
  | 0 => some (timerSel0, timer0)
  | 1 => some (timerSel1, timer1)
  | 2 => some (timerSel2, timer2)
  | _ => none

/-- The control word: the four low bits of the status, LSB then MSB, and the selection. -/
def controlWord (status select : UInt8) : UInt8 := status &&& 0x0F ||| timerLsbMsb ||| select

/-- The second part of `timer_set_frequency`: the initial value, byte by byte. -/
def writeInitialValue (bus : PortBus) (selectedTimer : Nat) (freq : UInt32) (calls : List PortCall) :
    Int × List PortCall :=
  let initialValue := timerFreq / freq
  let msb := utilGetMSB initialValue.toUInt16
  let lsb := utilGetLSB initialValue.toUInt16
  match sysOutb bus selectedTimer lsb.toUInt32 calls with
  | (false, calls) => (1, calls)
  | (true, calls) =>
    match sysOutb bus selectedTimer msb.toUInt32 calls with
    | (false, calls) => (1, calls)
    | (true, calls) => (0, calls)

/-- The function `timer_set_frequency`. -/
def timerSetFrequency (bus : PortBus) (timer : UInt8) (freq : UInt32) : Int × List PortCall :=
  if timer > 2 then (1, [])
  else if freq > timerFreq ∨ freq < 19 then (1, [])
  else
    match timerGetConf bus timer [] with
    | (none, calls) => (1, calls)
    | (some status, calls) =>
      match selectTimer timer with
      | none => (1, calls)
      | some (select, selectedTimer) =>
        match sysOutb bus timerCtrl (controlWord status select).toUInt32 calls with
        | (false, calls) => (1, calls)
        | (true, calls) => writeInitialValue bus selectedTimer freq calls

end Timer

end SpaceInvaders
