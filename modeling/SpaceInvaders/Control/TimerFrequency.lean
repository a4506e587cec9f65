/-
**Programming the timer.**

A frequency of at least 19 Hz has a divisor of 16 bits, so the two bytes written to the timer lose nothing of
it. The fields of the control word share no bit.

* `divisor_lt_iff`: the lower bound of the frequency is the tight one;
* `controlWord_fields`: the control word selects the timer and keeps the low bits of its status;
* `timerSetFrequency_writes`: what `timer_set_frequency` writes, for every timer and every frequency.
-/

import SpaceInvaders.Lib.Fields
import SpaceInvaders.Model.Timer

namespace SpaceInvaders

namespace Timer

open Fields

/-! ### The divisor -/

/-- **The divisor of a frequency fits in 16 bits exactly from 19 Hz on.** -/
theorem divisor_lt_iff {freq : UInt32} (positive : 0 < freq.toNat) :
    (timerFreq / freq).toNat < 65536 ↔ 19 ≤ freq.toNat := by
  have clock : timerFreq.toNat = 1193182 := rfl
  rw [UInt32.toNat_div, clock, Nat.div_lt_iff_lt_mul positive]
  omega

/-- The two bytes of a divisor of 16 bits. -/
theorem bytes_of_divisor {value : UInt32} (small : value.toNat < 65536) :
    (utilGetLSB value.toUInt16).toNat + 256 * (utilGetMSB value.toUInt16).toNat = value.toNat := by
  have word : value.toUInt16.toNat = value.toNat := by
    rw [UInt32.toNat_toUInt16]
    exact Nat.mod_eq_of_lt small
  have lsb : (utilGetLSB value.toUInt16).toNat = value.toNat % 256 := by
    rw [utilGetLSB, UInt16.toNat_toUInt8, UInt16.toNat_and, word]
    show (value.toNat &&& (2 ^ 8 - 1)) % 2 ^ 8 = value.toNat % 256
    rw [Nat.and_two_pow_sub_one_eq_mod, Nat.mod_mod]
  have msb : (utilGetMSB value.toUInt16).toNat = value.toNat / 256 := by
    rw [utilGetMSB, UInt16.toNat_toUInt8, UInt16.toNat_shiftRight, word]
    show (value.toNat >>> 8) % 2 ^ 8 = value.toNat / 256
    rw [Nat.shiftRight_eq_div_pow, Nat.mod_eq_of_lt (by omega)]
  rw [lsb, msb]
  omega

/-! ### The control word -/

/-- The selection of a timer, and its port. -/
theorem selectTimer_eq {timer : UInt8} (valid : timer.toNat ≤ 2) :
    ∃ select, selectTimer timer = some (select, timer0 + timer.toNat) ∧
      select.toNat = timer.toNat <<< 6 := by
  have cases : timer = 0 ∨ timer = 1 ∨ timer = 2 := by
    simp only [← UInt8.toNat_inj]
    show timer.toNat = 0 ∨ timer.toNat = 1 ∨ timer.toNat = 2
    omega
  rcases cases with rfl | rfl | rfl
  · exact ⟨timerSel0, rfl, rfl⟩
  · exact ⟨timerSel1, rfl, rfl⟩
  · exact ⟨timerSel2, rfl, rfl⟩

/-- **The fields of the control word**: the timer, both bytes, and the four low bits of the status. -/
theorem controlWord_fields {timer : Nat} (valid : timer ≤ 2) (status : UInt8) {select : UInt8}
    (selects : select.toNat = timer <<< 6) :
    field 2 6 (controlWord status select).toNat = timer ∧
      field 2 4 (controlWord status select).toNat = 3 ∧
      field 4 0 (controlWord status select).toNat = field 4 0 status.toNat := by
  have low : field 4 0 status.toNat < 2 ^ 4 := field_lt 4 0 status.toNat
  have kept : (status &&& 0x0F).toNat = field 4 0 status.toNat <<< 0 := by
    rw [UInt8.toNat_and, field, Nat.shiftLeft_zero, Nat.pow_zero, Nat.div_one]
    exact Nat.and_two_pow_sub_one_eq_mod status.toNat 4
  have parts : (controlWord status select).toNat =
      field 4 0 status.toNat <<< 0 ||| 3 <<< 4 ||| timer <<< 6 := by
    rw [controlWord, UInt8.toNat_or, UInt8.toNat_or, kept, selects]
    rfl
  have two : timer < 2 ^ 2 := Nat.lt_of_le_of_lt valid (by decide)
  have three : 3 < 2 ^ 2 := by decide
  rw [parts]
  refine ⟨?_, ?_, ?_⟩
  · rw [field_or, field_or, field_shifted two, field_apart three (apart_of_ordered (by decide)),
      field_apart low (apart_of_ordered (by decide)), Nat.zero_or, Nat.zero_or]
  · rw [field_or, field_or, field_shifted three, field_apart two (apart_of_ordered (by decide)),
      field_apart low (apart_of_ordered (by decide)), Nat.zero_or, Nat.or_zero]
  · rw [field_or, field_or, field_shifted low, field_apart two (apart_of_ordered (by decide)),
      field_apart three (apart_of_ordered (by decide)), Nat.or_zero, Nat.or_zero]

/-- The read-back command latches the status, not the count, of the one timer. -/
theorem readBackCommand_fields {timer : UInt8} (valid : timer.toNat ≤ 2) :
    field 2 6 (readBackCommand timer).toNat = 3 ∧ field 1 5 (readBackCommand timer).toNat = 1 ∧
      field 1 4 (readBackCommand timer).toNat = 0 ∧
      field 3 1 (readBackCommand timer).toNat = 2 ^ timer.toNat := by
  have cases : timer = 0 ∨ timer = 1 ∨ timer = 2 := by
    simp only [← UInt8.toNat_inj]
    show timer.toNat = 0 ∨ timer.toNat = 1 ∨ timer.toNat = 2
    omega
  rcases cases with rfl | rfl | rfl <;> decide

/-! ### The calls -/

/-- The timer and the frequency are ones that `timer_set_frequency` accepts. -/
def Settable (timer : UInt8) (freq : UInt32) : Prop :=
  timer.toNat ≤ 2 ∧ 19 ≤ freq.toNat ∧ freq.toNat ≤ 1193182

/-- All port calls succeed. -/
structure PortBus.Succeeds (bus : PortBus) : Prop where
  accepts : ∀ call, bus.accepts call
  answers : ∀ call, (bus.answers call).isSome

/-- Without an accepted timer and frequency nothing is written. -/
theorem timerSetFrequency_refused (bus : PortBus) {timer : UInt8} {freq : UInt32}
    (refused : ¬ Settable timer freq) : timerSetFrequency bus timer freq = (1, []) := by
  unfold timerSetFrequency
  by_cases large : timer > 2
  · rw [if_pos large]
  · rw [if_neg large, if_pos]
    have small : timer.toNat ≤ 2 := UInt8.le_iff_toNat_le.mp (UInt8.not_lt.mp large)
    by_contra inside
    obtain ⟨above, below⟩ := not_or.mp inside
    have atMost : freq.toNat ≤ 1193182 := UInt32.le_iff_toNat_le.mp (UInt32.not_lt.mp above)
    have atLeast : 19 ≤ freq.toNat := UInt32.le_iff_toNat_le.mp (UInt32.not_lt.mp below)
    exact refused ⟨small, atLeast, atMost⟩

/-- What the calls of an accepted request are: the read-back of the status, the control word, and the two
bytes of the divisor. -/
structure SetsFrequency (bus : PortBus) (timer : UInt8) (freq : UInt32) (status control lsb msb : UInt8) :
    Prop where
  calls : timerSetFrequency bus timer freq =
    (0, [.outb timerCtrl (readBackCommand timer).toUInt32, .inb (timer0 + timer.toNat),
      .outb timerCtrl control.toUInt32, .outb (timer0 + timer.toNat) lsb.toUInt32,
      .outb (timer0 + timer.toNat) msb.toUInt32])
  readsBack : field 2 6 (readBackCommand timer).toNat = 3 ∧ field 1 5 (readBackCommand timer).toNat = 1 ∧
    field 1 4 (readBackCommand timer).toNat = 0 ∧
    field 3 1 (readBackCommand timer).toNat = 2 ^ timer.toNat
  read : (bus.answers 1).map (fun value => (value &&& 0xff).toUInt8) = some status
  selects : field 2 6 control.toNat = timer.toNat
  loads : field 2 4 control.toNat = 3
  keeps : field 4 0 control.toNat = field 4 0 status.toNat
  divides : lsb.toNat + 256 * msb.toNat = 1193182 / freq.toNat
  inRange : 1 ≤ 1193182 / freq.toNat ∧ 1193182 / freq.toNat ≤ 65535

theorem PortBus.Succeeds.sysOutb {bus : PortBus} (succeeds : bus.Succeeds) (port : Nat) (value : UInt32)
    (calls : List PortCall) : sysOutb bus port value calls = (true, calls ++ [.outb port value]) := by
  rw [Timer.sysOutb, succeeds.accepts]

/-- The calls of an accepted request, when all of them succeed. -/
theorem timerSetFrequency_calls {bus : PortBus} (succeeds : bus.Succeeds) {timer : UInt8}
    {freq : UInt32} (settable : Settable timer freq) {status select : UInt8}
    (read : (bus.answers 1).map (fun value => (value &&& 0xff).toUInt8) = some status)
    (selected : selectTimer timer = some (select, timer0 + timer.toNat)) :
    timerSetFrequency bus timer freq =
      (0, [.outb timerCtrl (readBackCommand timer).toUInt32, .inb (timer0 + timer.toNat),
        .outb timerCtrl (controlWord status select).toUInt32,
        .outb (timer0 + timer.toNat) (utilGetLSB (timerFreq / freq).toUInt16).toUInt32,
        .outb (timer0 + timer.toNat) (utilGetMSB (timerFreq / freq).toUInt16).toUInt32]) := by
  obtain ⟨small, atLeast, atMost⟩ := settable
  have accepted : ¬ timer > 2 := UInt8.not_lt.mpr (UInt8.le_iff_toNat_le.mpr small)
  have inRange : ¬ (freq > timerFreq ∨ freq < 19) :=
    not_or.mpr ⟨UInt32.not_lt.mpr (UInt32.le_iff_toNat_le.mpr atMost),
      UInt32.not_lt.mpr (UInt32.le_iff_toNat_le.mpr atLeast)⟩
  have conf : timerGetConf bus timer [] = (some status,
      [.outb timerCtrl (readBackCommand timer).toUInt32, .inb (timer0 + timer.toNat)]) := by
    rw [timerGetConf, if_neg accepted, succeeds.sysOutb]
    exact Prod.ext read rfl
  rw [timerSetFrequency, if_neg accepted, if_neg inRange, conf]
  simp only [selected, succeeds.sysOutb, writeInitialValue]
  rfl

/-- **What `timer_set_frequency` writes**, for every timer and every frequency. -/
theorem timerSetFrequency_writes (bus : PortBus) (timer : UInt8) (freq : UInt32) :
    (¬ Settable timer freq →
      (timerSetFrequency bus timer freq).1 ≠ 0 ∧ (timerSetFrequency bus timer freq).2 = []) ∧
    (Settable timer freq → bus.Succeeds →
      ∃ status control lsb msb, SetsFrequency bus timer freq status control lsb msb) := by
  constructor
  · intro refused
    rw [timerSetFrequency_refused bus refused]
    exact ⟨Int.one_ne_zero, rfl⟩
  · intro settable succeeds
    have clock : (timerFreq / freq).toNat = 1193182 / freq.toNat := UInt32.toNat_div ..
    have below := (divisor_lt_iff (by have := settable.2.1; omega)).mpr settable.2.1
    obtain ⟨select, selected, selects⟩ := selectTimer_eq settable.1
    obtain ⟨value, answer⟩ := Option.isSome_iff_exists.mp (succeeds.answers 1)
    have read : (bus.answers 1).map (fun value => (value &&& 0xff).toUInt8) =
        some (value &&& 0xff).toUInt8 := by rw [answer, Option.map_some]
    obtain ⟨timerField, loadField, lowField⟩ :=
      controlWord_fields settable.1 (value &&& 0xff).toUInt8 selects
    refine ⟨_, _, _, _, timerSetFrequency_calls succeeds settable read selected,
      readBackCommand_fields settable.1, read, timerField, loadField, lowField, ?_, ?_, ?_⟩
    · rw [bytes_of_divisor below, clock]
    · exact Nat.div_pos settable.2.2 (by have := settable.2.1; omega)
    · rw [clock] at below
      omega

/-- A machine whose timers answer with a status. -/
def answeringBus (status : UInt32) : PortBus := ⟨fun _ => true, fun _ => some status⟩

/-- 60 Hz on timer 0: the divisor 19886 is written as `0xAE`, `0x4D`. -/
theorem timerSetFrequency_sixty :
    ∃ status control lsb msb, SetsFrequency (answeringBus 0x34) 0 60 status control lsb msb :=
  (timerSetFrequency_writes (answeringBus 0x34) 0 60).2 ⟨by decide, by decide, by decide⟩
    ⟨fun _ => rfl, fun _ => rfl⟩

example : timerSetFrequency (answeringBus 0x34) 0 60 =
    (0, [.outb 0x43 0xE2, .inb 0x40, .outb 0x43 0x34, .outb 0x40 0xAE, .outb 0x40 0x4D]) := by
  decide

end Timer

end SpaceInvaders
