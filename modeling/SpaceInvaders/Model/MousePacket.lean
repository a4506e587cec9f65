/-
**The packets of the mouse**: `mouse_test_packet` of `lab4.c`, with `m_interrupts.c` and the reading part
of the mouse's `kb_controller.c`.

The byte of an interrupt travels through the global `data`, which keeps its old value when nothing is
read. `Traffic` keeps the bytes the interrupt handler has read, `printed` the packets handed to
`mouse_print_packet`.
-/

import SpaceInvaders.Lib.Runs
import SpaceInvaders.Model.MouseController

namespace SpaceInvaders

/-! ### `i8042.h` of the mouse, continued -/

/-- The status bits of a full output buffer, of a parity and of a timeout error. -/
def kbcOutb : UInt8 := bit 0
def kbcPare : UInt8 := bit 7
def kbcTimeo : UInt8 := bit 6

def pkLb : UInt8 := bit 0
def pkRb : UInt8 := bit 1
def pkMb : UInt8 := bit 2
def pkBit3 : UInt8 := bit 3
def pkXsign : UInt8 := bit 4
def pkYsign : UInt8 := bit 5
def pkXovf : UInt8 := bit 6
def pkYovf : UInt8 := bit 7

/-! ### The interrupt handler -/

/-- The function `kbc_check_out_buf`. -/
def kbcCheckOutBuf (controller : Controller) (traffic : Traffic) : Bool × Traffic :=
  match kbcReadStatus controller traffic with
  | (none, traffic) => (false, traffic)
  | (some status, traffic) =>
    (status &&& kbcOutb ≠ 0 ∧ status &&& (kbcPare ||| kbcTimeo) = 0, traffic)

/-- The function `kbc_read_buffer`, with the byte it stores. -/
def kbcReadBuffer (controller : Controller) (traffic : Traffic) : Option UInt8 × Traffic :=
  match controller.output traffic.outputReads with
  | none => (none, { traffic with outputReads := traffic.outputReads + 1 })
  | some output =>
    (some output.toUInt8, { traffic with
      outputReads := traffic.outputReads + 1
      replies := traffic.replies ++ [output.toUInt8] })

/-- The reads of `mouse_ih`: the byte it reads, if it does. -/
def mouseRead (controller : Controller) (traffic : Traffic) : Option UInt8 × Traffic :=
  match kbcCheckOutBuf controller traffic with
  | (false, traffic) => (none, traffic)
  | (true, traffic) => kbcReadBuffer controller traffic

/-- The handler `mouse_ih`: the global `data` afterwards. -/
def mouseIh (controller : Controller) (data : UInt8) (traffic : Traffic) : UInt8 × Traffic :=
  ((mouseRead controller traffic).1.getD data, (mouseRead controller traffic).2)

/-! ### Packets -/

/-- The struct `packet`. -/
structure Packet where
  bytes : List UInt8
  rb : Bool
  mb : Bool
  lb : Bool
  deltaX : Int16
  deltaY : Int16
  xOv : Bool
  yOv : Bool

/-- A displacement: the byte, extended by its sign bit in the first byte. -/
def movement (sign : Bool) (byte : UInt8) : Int16 :=
  if sign then (byte.toUInt16 ||| 0xFF00).toInt16 else byte.toUInt16.toInt16

/-- The function `mouse_parse_packet`. -/
def mouseParsePacket (buf : List UInt8) (len : Nat) : Packet :=
  let first := buf.getD 0 0
  { bytes := buf.take len
    lb := first &&& pkLb ≠ 0
    rb := first &&& pkRb ≠ 0
    mb := first &&& pkMb ≠ 0
    deltaX := movement (first &&& pkXsign ≠ 0) (buf.getD 1 0)
    deltaY := movement (first &&& pkYsign ≠ 0) (buf.getD 2 0)
    xOv := first &&& pkXovf ≠ 0
    yOv := first &&& pkYovf ≠ 0 }

/-! ### The test -/

/-- One `driver_receive`: it fails, it brings no interrupt of the mouse, or one. -/
inductive MouseReceive
  | failed
  | ignored
  | interrupt

/-- The status of the calls before and after the loop. -/
structure MouseCalls where
  enables : Bool
  subscribes : Bool
  unsubscribes : Bool
  disables : Bool

/-- Where the test is: in its loop, or returned. -/
inductive MouseControl
  | looping
  | returned (code : Int)
deriving DecidableEq

/-- The variables of the test. -/
structure MouseTest where
  control : MouseControl
  data : UInt8
  size : Nat
  bytes : List UInt8
  syncState : Bool
  packetCount : Nat
  traffic : Traffic
  printed : List Packet

/-- The calls behind the loop. -/
def finishPackets (calls : MouseCalls) : Int :=
  if ¬ calls.unsubscribes then 1 else if ¬ calls.disables then 1 else 0

/-- The test of the loop of `mouse_test_packet`. -/
def packetLoop (calls : MouseCalls) (cnt : UInt32) (test : MouseTest) : MouseTest :=
  if test.packetCount < cnt.toNat then { test with control := .looping }
  else { test with control := .returned (finishPackets calls) }

/-- The end of the loop's body: the byte is stored at `size`, and a full packet is printed. -/
def storeByte (test : MouseTest) : MouseTest :=
  let bytes := test.bytes.set test.size test.data
  let size := test.size + 1
  if size = 3 then
    { test with
      bytes := bytes
      size := 0
      packetCount := test.packetCount + 1
      printed := test.printed ++ [mouseParsePacket bytes size] }
  else { test with bytes := bytes, size := size }

/-- The body of the loop behind `mouse_ih`. -/
def handleByte (test : MouseTest) : MouseTest :=
  if test.size = 0 then
    if test.data &&& pkBit3 = 0 then { test with syncState := false }
    else storeByte { test with syncState := true }
  else if ¬ test.syncState then { test with size := 0 }
  else storeByte test

/-- The variables behind `mouse_ih`. -/
def afterMouseIh (controller : Controller) (test : MouseTest) : MouseTest :=
  { test with
    data := (mouseIh controller test.data test.traffic).1
    traffic := (mouseIh controller test.data test.traffic).2 }

/-- One round of the loop of `mouse_test_packet`. -/
def packetStep (controller : Controller) (calls : MouseCalls) (cnt : UInt32) (test : MouseTest)
    (receive : MouseReceive) : MouseTest :=
  match test.control, receive with
  | .looping, .interrupt => packetLoop calls cnt (handleByte (afterMouseIh controller test))
  | .looping, _ => packetLoop calls cnt test
  | .returned _, _ => test

/-- The globals at the start of the program. -/
def MouseTest.initial : MouseTest :=
  ⟨.looping, 0, 0, [0, 0, 0], false, 0, .none, []⟩

/-- The function `mouse_test_packet` up to its loop. -/
def mouseTestPacket (calls : MouseCalls) (cnt : UInt32) : MouseTest :=
  if ¬ calls.enables then { MouseTest.initial with control := .returned 1 }
  else if ¬ calls.subscribes then { MouseTest.initial with control := .returned 1 }
  else packetLoop calls cnt .initial

end SpaceInvaders
