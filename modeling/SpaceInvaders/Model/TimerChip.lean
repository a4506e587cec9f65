/-
**The timer chip**, and the configuration that `timer_display_conf` shows.

The chip is outside the program: three counters at the ports `0x40` to `0x42` and a control register at
`0x43`. A control word sets up one counter, a read-back command latches the status of the counters that it
names, and the bytes written to a counter make up its count. `PortBus` says which calls the system carries
out; only those reach the chip.
-/

import SpaceInvaders.Lib.Fields
import SpaceInvaders.Model.Timer

namespace SpaceInvaders

namespace Timer

open Fields

/-! ### One counter -/

/-- A counter: the fields of its last control word, the first byte of a count that is not complete, the
count loaded since that control word, and a status that has been latched and not yet read. -/
structure Counter where
  access : Fin 4
  operation : Fin 16
  lsb : Option UInt8
  count : Option Nat
  latched : Option Nat

namespace Counter

/-- The status: the state of the output and of the count, the access, the mode and the base. -/
def status (pins : Fin 4) (counter : Counter) : Nat :=
  counter.operation.val ||| counter.access.val <<< 4 ||| pins.val <<< 6

/-- A latched status stays until it is read. -/
def latch (pins : Fin 4) (counter : Counter) : Counter :=
  { counter with latched := some (counter.latched.getD (counter.status pins)) }

/-- A read takes the latched status away. -/
def read (counter : Counter) : Counter := { counter with latched := none }

/-- A control word stops the count. -/
def setUp (word : Nat) (counter : Counter) : Counter :=
  { counter with
    access := ⟨field 2 4 word, field_lt 2 4 word⟩
    operation := ⟨field 4 0 word, field_lt 4 0 word⟩
    lsb := none
    count := none }

/-- A byte of a count: the only one, or the first or the second of two. -/
def write (byte : UInt8) (counter : Counter) : Counter :=
  if counter.access = 1 then { counter with count := some byte.toNat }
  else if counter.access = 2 then { counter with count := some (256 * byte.toNat) }
  else
    match counter.lsb with
    | none => { counter with lsb := some byte }
    | some lsb => { counter with lsb := none, count := some (lsb.toNat + 256 * byte.toNat) }

/-- What a byte for the control register does to counter `n`: a read-back command, which latches the
status unless bit 4 is set, a counter latch command, which is about the count only, or a control word. -/
def command (n : Nat) (pins : Fin 4) (word : Nat) (counter : Counter) : Counter :=
  if field 2 6 word = 3 then
    if field 1 4 word = 0 ∧ field 1 (n + 1) word = 1 then counter.latch pins else counter
  else if field 2 6 word = n ∧ field 2 4 word ≠ 0 then counter.setUp word
  else counter

/-- What a call that is carried out does to counter `n`. -/
def serve (n : Nat) (pins : Fin 4) (counter : Counter) : PortCall → Counter
  | .outb port value =>
    if port = timerCtrl then counter.command n pins value.toUInt8.toNat
    else if port = timer0 + n then counter.write value.toUInt8
    else counter
  | .inb port => if port = timer0 + n then counter.read else counter

end Counter

/-! ### Calls -/

/-- The system carries out the call with this number. -/
def PortBus.carriesOut (bus : PortBus) (number : Nat) : PortCall → Bool
  | .outb _ _ => bus.accepts number
  | .inb _ => (bus.answers number).isSome

/-- Counter `n` behind the calls, the first of which has this number. -/
def Counter.after (n : Nat) (bus : PortBus) (pins : Nat → Fin 4) :
    Nat → Counter → List PortCall → Counter
  | _, counter, [] => counter
  | number, counter, call :: calls =>
    after n bus pins (number + 1)
      (if bus.carriesOut number call then counter.serve n (pins number) call else counter) calls

/-- The calls that read counter `n` while a status is latched are answered with that status. -/
def Counter.Answers (n : Nat) (bus : PortBus) (pins : Nat → Fin 4) : Nat → Counter → List PortCall → Prop
  | _, _, [] => True
  | number, counter, call :: calls =>
    (call = .inb (timer0 + n) → ∀ status value, counter.latched = some status →
      bus.answers number = some value → (value &&& 0xff).toUInt8.toNat = status) ∧
    Answers n bus pins (number + 1)
      (if bus.carriesOut number call then counter.serve n (pins number) call else counter) calls

/-! ### `timer_display_conf` -/

/-- The enumeration `timer_status_field`. -/
inductive TimerStatusField
  | all
  | initial
  | mode
  | base
deriving DecidableEq

/-- The enumeration `timer_init`. -/
inductive TimerInit
  | invalVal
  | lsbOnly
  | msbOnly
  | msbAfterLsb
deriving DecidableEq

/-- The union `timer_status_field_val`. -/
inductive TimerStatusFieldVal
  | byte (value : UInt8)
  | inMode (value : TimerInit)
  | countMode (value : UInt8)
  | bcd (value : Bool)
deriving DecidableEq

/-- The values that `timer_display_conf` hands to `timer_print_config`. -/
def timerDisplayConf (st : UInt8) : TimerStatusField → TimerStatusFieldVal
  | .all => .byte st
  | .initial =>
    let st := (st >>> 4) &&& 0x03
    if st = 1 then .inMode .lsbOnly
    else if st = 2 then .inMode .msbOnly
    else if st = 3 then .inMode .msbAfterLsb
    else .inMode .invalVal
  | .mode =>
    let st := (st >>> 1) &&& 0x07
    if st = 6 then .countMode 2
    else if st = 7 then .countMode 3
    else .countMode st
  | .base => .bcd (st &&& 0x01 ≠ 0)

/-- The function `timer_test_read_config`: its result, its calls, and what it has printed. `prints` is the
result of `timer_print_config`. -/
def timerTestReadConfig (bus : PortBus) (prints : Bool) (timer : UInt8) (shown : TimerStatusField) :
    Int × List PortCall × Option TimerStatusFieldVal :=
  match timerGetConf bus timer [] with
  | (none, calls) => (1, calls, none)
  | (some status, calls) =>
    if prints then (0, calls, some (timerDisplayConf status shown)) else (1, calls, none)

end Timer

end SpaceInvaders
