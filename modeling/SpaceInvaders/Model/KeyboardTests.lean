/-
**The keyboard tests of `lab3.c`**: `kbd_test_scan`, `kbd_test_poll`, `kbd_test_timed_scan`, and the tick
counter of `timer.c`.

The three tests print through `&scancode`, so a call of size 2 reads the byte that lies behind that variable
in memory: it is the parameter `behind`. `received` keeps the bytes taken from the data port, `printed` the
calls of `kbd_print_scancode`. The `int` counter is not bounded here.
-/

import SpaceInvaders.Lib.Runs
import SpaceInvaders.Model.Keyboard

namespace SpaceInvaders

namespace Lab

/-! ### `i8042.h` of the labs, continued -/

def kbTwoBytes : UInt8 := 0xE0
def kbMakeCode : UInt8 := bit 7

/-! ### Printing -/

/-- The arguments of `kbd_print_scancode`, with the bytes it reads. -/
structure PrintCall where
  make : Bool
  size : Nat
  bytes : List UInt8
deriving DecidableEq

/-- The call that each of the tests makes for its scancode; the code names the first argument
`is_break`. -/
def printScancode (behind scancode : UInt8) : PrintCall :=
  let isBreak : Bool := scancode &&& kbMakeCode = 0
  let size := if scancode = kbTwoBytes then 2 else 1
  ⟨isBreak, size, [scancode, behind].take size⟩

/-- Where a test is: in its loop, or returned. -/
inductive LoopControl
  | looping
  | returned (code : Int)
deriving DecidableEq

/-- The variables the tests share. -/
structure KbdTest where
  control : LoopControl
  scancode : UInt8
  received : List UInt8
  printed : List PrintCall

/-- One `driver_receive`: it fails, it brings no notification of a subscribed interrupt, or the keyboard
and the timer bits of one. -/
inductive LabReceive
  | failed
  | ignored
  | hardware (keyboard : Option Ports) (timer : Bool)

/-- A keyboard interrupt: `kbc_ih`, and the scancode is printed. -/
def KbdTest.keyboard (behind : UInt8) (ports : Ports) (test : KbdTest) : KbdTest :=
  { test with
    scancode := kbcIh ports test.scancode
    received := test.received ++ (receivedByte ports).toList
    printed := test.printed ++ [printScancode behind (kbcIh ports test.scancode)] }

/-! ### `kbd_test_scan` -/

/-- The test of the loop, with what the calls behind it return. -/
def scanLoop (finish : Int) (test : KbdTest) : KbdTest :=
  if test.scancode ≠ kbBreakEsc then { test with control := .looping }
  else { test with control := .returned finish }

/-- One round of the loop of `kbd_test_scan`. -/
def scanStep (behind : UInt8) (finish : Int) (test : KbdTest) (receive : LabReceive) : KbdTest :=
  match test.control, receive with
  | .looping, .hardware (some ports) _ => scanLoop finish (test.keyboard behind ports)
  | .looping, _ => scanLoop finish test
  | .returned _, _ => test

/-- The function `kbd_test_scan` up to its loop, from a value of the global `scancode`. -/
def kbdTestScan (finish : Int) (scancode : UInt8) : KbdTest :=
  scanLoop finish ⟨.looping, scancode, [], []⟩

/-! ### `kbd_test_poll` -/

/-- One round of the loop of `kbd_test_poll`, with the answers of the ports. -/
def pollStep (behind : UInt8) (finish : Int) (test : KbdTest) (ports : Ports) : KbdTest :=
  match test.control with
  | .looping =>
    if (readKeyboardOutput ports keyboardOutCmd test.scancode false).1 = 0 then
      scanLoop finish (test.keyboard behind ports)
    else
      scanLoop finish { test with
        scancode := kbcIh ports test.scancode
        received := test.received ++ (receivedByte ports).toList }
  | .returned _ => test

/-- The function `kbd_test_poll` up to its loop; behind it comes `kb_restore_settings`. -/
def kbdTestPoll (finish : Int) (scancode : UInt8) : KbdTest :=
  scanLoop finish ⟨.looping, scancode, [], []⟩

/-! ### `kbd_test_timed_scan` -/

/-- The variables of the timed test. `idle` counts the timer interrupts handled since the last keyboard
interrupt or the beginning of the loop, and `resetAt` is the counter at that moment. -/
structure TimedTest extends KbdTest where
  counter : Int
  timeElapsed : Int
  idle : Nat
  resetAt : Int

/-- The test of the loop of `kbd_test_timed_scan`. -/
def timedLoop (n : UInt8) (finish : Int) (test : TimedTest) : TimedTest :=
  if test.scancode ≠ kbBreakEsc ∧ test.timeElapsed < n.toNat then { test with control := .looping }
  else { test with control := .returned finish }

/-- A keyboard interrupt of the timed test. -/
def TimedTest.onKeyboard (behind : UInt8) (ports : Ports) (test : TimedTest) : TimedTest :=
  { test with
    toKbdTest := test.toKbdTest.keyboard behind ports
    timeElapsed := 0
    idle := 0
    resetAt := test.counter }

/-- A timer interrupt: `timer_int_handler`, and a second is counted at the multiples of 60. -/
def TimedTest.onTimer (test : TimedTest) : TimedTest :=
  { test with
    counter := test.counter + 1
    idle := test.idle + 1
    timeElapsed := if (test.counter + 1) % 60 = 0 then test.timeElapsed + 1 else test.timeElapsed }

/-- A notification: the keyboard's bit first, and then the timer's. -/
def TimedTest.onHardware (behind : UInt8) (keyboard : Option Ports) (timer : Bool) (test : TimedTest) :
    TimedTest :=
  let test := match keyboard with
    | some ports => test.onKeyboard behind ports
    | none => test
  if timer then test.onTimer else test

/-- One round of the loop of `kbd_test_timed_scan`. -/
def timedStep (behind : UInt8) (n : UInt8) (finish : Int) (test : TimedTest) (receive : LabReceive) :
    TimedTest :=
  match test.control, receive with
  | .looping, .hardware keyboard timer => timedLoop n finish (test.onHardware behind keyboard timer)
  | .looping, _ => timedLoop n finish test
  | .returned _, _ => test

/-- The function `kbd_test_timed_scan` up to its loop, from values of the globals `scancode` and
`counter`. -/
def kbdTestTimedScan (n : UInt8) (finish : Int) (scancode : UInt8) (counter : Int) : TimedTest :=
  timedLoop n finish ⟨⟨.looping, scancode, [], []⟩, counter, 0, 0, counter⟩

end Lab

end SpaceInvaders
