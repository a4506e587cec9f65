/-
**The timer chip under any sequence of requests.**

A request to `timer_set_frequency` is five calls, and any of them may fail: a failed one leaves a status
latched, or a counter set up whose count is not complete. `Setting` says what a counter is left with.

* `request_other`: a request leaves the counters of the other timers alone;
* `Tracks.request`: one request, wherever it breaks off;
* `chip_tracks`: after any sequence of requests a counter divides the clock as the last request that set it
  up wanted, if that one came through, in its first mode and base; `config_tracks`: and that is what
  `timer_test_read_config` shows.
-/

import SpaceInvaders.Control.TimerFrequency
import SpaceInvaders.Lib.Runs
import SpaceInvaders.Model.TimerChip

namespace SpaceInvaders

namespace Timer

open Fields

/-! ### The effect of a call -/

/-- The read-back command names the one timer. -/
theorem readBackCommand_names {timer : UInt8} (valid : timer.toNat ≤ 2) {n : Nat} (counter : n ≤ 2) :
    field 1 (n + 1) (readBackCommand timer).toNat = 1 ↔ timer.toNat = n := by
  have cases : timer = 0 ∨ timer = 1 ∨ timer = 2 := by
    simp only [← UInt8.toNat_inj]
    show timer.toNat = 0 ∨ timer.toNat = 1 ∨ timer.toNat = 2
    omega
  have counters : n = 0 ∨ n = 1 ∨ n = 2 := by omega
  rcases cases with rfl | rfl | rfl <;> rcases counters with rfl | rfl | rfl <;> decide

theorem serve_readBack {timer : UInt8} (valid : timer.toNat ≤ 2) {n : Nat} (small : n ≤ 2) (pins : Fin 4)
    (counter : Counter) :
    counter.serve n pins (.outb timerCtrl (readBackCommand timer).toUInt32) =
      if timer.toNat = n then counter.latch pins else counter := by
  obtain ⟨readsBack, _, latches, _⟩ := readBackCommand_fields valid
  have names := readBackCommand_names valid small
  rw [Counter.serve, if_pos rfl, UInt8.toUInt8_toUInt32, Counter.command, if_pos readsBack]
  simp only [latches, names, true_and]

theorem serve_controlWord {timer : UInt8} (valid : timer.toNat ≤ 2) {select : UInt8}
    (selects : select.toNat = timer.toNat <<< 6) (status : UInt8) (n : Nat) (pins : Fin 4)
    (counter : Counter) :
    counter.serve n pins (.outb timerCtrl (controlWord status select).toUInt32) =
      if timer.toNat = n then counter.setUp (controlWord status select).toNat else counter := by
  obtain ⟨selected, loads, _⟩ := controlWord_fields valid status selects
  have notReadBack : timer.toNat ≠ 3 := by omega
  rw [Counter.serve, if_pos rfl, UInt8.toUInt8_toUInt32, Counter.command, selected, loads,
    if_neg notReadBack]
  simp

theorem serve_byte {timer : Nat} (valid : timer ≤ 2) (byte : UInt8) (n : Nat) (pins : Fin 4)
    (counter : Counter) :
    counter.serve n pins (.outb (timer0 + timer) byte.toUInt32) =
      if timer = n then counter.write byte else counter := by
  have notControl : timer0 + timer ≠ timerCtrl := by
    unfold timer0 timerCtrl
    omega
  rw [Counter.serve, if_neg notControl, UInt8.toUInt8_toUInt32]
  simp only [Nat.add_left_cancel_iff]

theorem serve_read (timer n : Nat) (pins : Fin 4) (counter : Counter) :
    counter.serve n pins (.inb (timer0 + timer)) =
      if timer = n then counter.read else counter := by
  rw [Counter.serve]
  simp only [Nat.add_left_cancel_iff]

/-! ### The calls of a request -/

/-- The low byte of what `sys_inb` stores. -/
def PortBus.byte (bus : PortBus) (number : Nat) : Option UInt8 :=
  (bus.answers number).map fun value => (value &&& 0xff).toUInt8

/-- The five calls of an accepted request. -/
def setCalls (timer : UInt8) (freq : UInt32) (control : UInt8) : List PortCall :=
  [.outb timerCtrl (readBackCommand timer).toUInt32, .inb (timer0 + timer.toNat),
    .outb timerCtrl control.toUInt32,
    .outb (timer0 + timer.toNat) (utilGetLSB (timerFreq / freq).toUInt16).toUInt32,
    .outb (timer0 + timer.toNat) (utilGetMSB (timerFreq / freq).toUInt16).toUInt32]

/-- The result and the number of calls, by the first one that fails; `control` stands for a control word
that is not reached. -/
theorem timerSetFrequency_eq (bus : PortBus) {timer : UInt8} {freq : UInt32}
    (settable : Settable timer freq) {select : UInt8}
    (selected : selectTimer timer = some (select, timer0 + timer.toNat)) (control : UInt8) :
    timerSetFrequency bus timer freq =
      (if bus.accepts 0 then
        match bus.byte 1 with
        | none => (1, (setCalls timer freq control).take 2)
        | some status =>
          if bus.accepts 2 then
            if bus.accepts 3 then
              (if bus.accepts 4 then 0 else 1, setCalls timer freq (controlWord status select))
            else (1, (setCalls timer freq (controlWord status select)).take 4)
          else (1, (setCalls timer freq (controlWord status select)).take 3)
      else (1, (setCalls timer freq control).take 1) : Int × List PortCall) := by
  obtain ⟨small, atLeast, atMost⟩ := settable
  have accepted : ¬ timer > 2 := UInt8.not_lt.mpr (UInt8.le_iff_toNat_le.mpr small)
  have inRange : ¬ (freq > timerFreq ∨ freq < 19) :=
    not_or.mpr ⟨UInt32.not_lt.mpr (UInt32.le_iff_toNat_le.mpr atMost),
      UInt32.not_lt.mpr (UInt32.le_iff_toNat_le.mpr atLeast)⟩
  rw [timerSetFrequency, if_neg accepted, if_neg inRange, timerGetConf, if_neg accepted, sysOutb,
    PortBus.byte]
  simp only [List.length_nil, List.nil_append]
  cases bus.accepts 0 with
  | false => rfl
  | true =>
    simp only [utilSysInb, List.length_singleton, if_true]
    cases bus.answers 1 with
    | none => rfl
    | some value =>
      simp only [Option.map_some, selected, sysOutb, writeInitialValue, List.cons_append,
        List.nil_append, List.length_cons, List.length_nil, Nat.reduceAdd]
      cases bus.accepts 2 with
      | false => rfl
      | true =>
        simp only [List.cons_append, List.nil_append, List.length_cons, List.length_nil, Nat.reduceAdd]
        cases bus.accepts 3 with
        | false => rfl
        | true =>
          simp only [List.cons_append, List.nil_append, List.length_cons, List.length_nil, Nat.reduceAdd]
          cases bus.accepts 4 <;> rfl

/-- Every call of a request leaves the counters of the other timers alone. -/
theorem after_other (bus : PortBus) {timer : UInt8} (freq : UInt32) {n : Nat} (small : n ≤ 2)
    (other : timer.toNat ≠ n) (pins : Nat → Fin 4) (counter : Counter) :
    counter.after n bus pins 0 (timerSetFrequency bus timer freq).2 = counter := by
  by_cases settable : Settable timer freq
  · obtain ⟨select, selected, selects⟩ := selectTimer_eq settable.1
    have still {number : Nat} {calls : List PortCall}
        (idle : ∀ call ∈ calls, ∀ pins, counter.serve n pins call = counter) :
        counter.after n bus pins number calls = counter := by
      induction calls generalizing number with
      | nil => rfl
      | cons call calls ih =>
        rw [Counter.after, idle call List.mem_cons_self, ite_self]
        exact ih fun later member => idle later (List.mem_cons_of_mem _ member)
    have idle (status : UInt8) (made : Nat) :
        ∀ call ∈ (setCalls timer freq (controlWord status select)).take made, ∀ pins,
          counter.serve n pins call = counter := by
      intro call member pins
      have call := List.mem_of_mem_take member
      simp only [setCalls, List.mem_cons, List.not_mem_nil, or_false] at call
      rcases call with rfl | rfl | rfl | rfl | rfl
      · rw [serve_readBack settable.1 small, if_neg other]
      · rw [serve_read, if_neg other]
      · rw [serve_controlWord settable.1 selects, if_neg other]
      · rw [serve_byte settable.1, if_neg other]
      · rw [serve_byte settable.1, if_neg other]
    rw [timerSetFrequency_eq bus settable selected (controlWord 0 select)]
    split
    · split
      · exact still (idle _ 2)
      · split
        · split
          · exact still fun call member => idle _ 5 call member
          · exact still (idle _ 4)
        · exact still (idle _ 3)
    · exact still (idle _ 1)
  · rw [timerSetFrequency_refused bus settable]
    rfl

/-! ### What a counter is left with -/

/-- A counter that no request has set up, that divides the clock, or whose set-up was broken off. -/
inductive Setting
  | untouched
  | divides (divisor : Nat)
  | interrupted
deriving DecidableEq

/-- The counter is in this setting, with the values of the beginning where none has been written. -/
def Setting.Holds (first now : Counter) : Setting → Prop
  | .untouched => now.access = first.access ∧ now.lsb = first.lsb ∧ now.count = first.count
  | .divides divisor =>
    now.access.val = 3 ∧ now.lsb = none ∧ now.count = some divisor ∧
      ∀ status, now.latched = some status → field 2 4 status = 3
  | .interrupted => now.count = none

/-- The counter is in this setting, in the mode and the base of the beginning; so is a latched status. -/
structure Tracks (first now : Counter) (setting : Setting) : Prop where
  operation : now.operation = first.operation
  latched : ∀ status, now.latched = some status → field 4 0 status = first.operation.val
  setting : setting.Holds first now

/-- The fields of a status. -/
theorem status_fields (pins : Fin 4) (counter : Counter) :
    field 4 0 (counter.status pins) = counter.operation.val ∧
      field 2 4 (counter.status pins) = counter.access.val := by
  have low : counter.operation.val < 2 ^ 4 := counter.operation.isLt
  have middle : counter.access.val < 2 ^ 2 := counter.access.isLt
  have high : pins.val < 2 ^ 2 := pins.isLt
  have operation : counter.operation.val = counter.operation.val <<< 0 := rfl
  constructor
  · rw [Counter.status, operation, field_or, field_or, field_shifted low,
      field_apart middle (apart_of_ordered (by decide)), field_apart high (apart_of_ordered (by decide)),
      Nat.or_zero, Nat.or_zero]
    rfl
  · rw [Counter.status, operation, field_or, field_or, field_shifted middle,
      field_apart low (apart_of_ordered (by decide)), field_apart high (apart_of_ordered (by decide)),
      Nat.zero_or, Nat.or_zero]

namespace Tracks

variable {first now : Counter} {setting : Setting}

/-- Latching the status. -/
theorem latch (tracks : Tracks first now setting) (pins : Fin 4) :
    Tracks first (now.latch pins) setting := by
  obtain ⟨operation, latched, holds⟩ := tracks
  obtain ⟨inMode, inAccess⟩ := status_fields pins now
  refine ⟨operation, fun status found => ?_, ?_⟩
  · change some (now.latched.getD (now.status pins)) = some status at found
    cases Option.some.inj found
    cases old : now.latched with
    | none => exact inMode.trans (congrArg Fin.val operation)
    | some status => exact latched status old
  · cases setting with
    | untouched => exact holds
    | interrupted => exact holds
    | divides divisor =>
      obtain ⟨access, lsb, count, read⟩ := holds
      refine ⟨access, lsb, count, fun status found => ?_⟩
      change some (now.latched.getD (now.status pins)) = some status at found
      cases Option.some.inj found
      cases old : now.latched with
      | none => exact inAccess.trans access
      | some status => exact read status old

/-- Reading it. -/
theorem read (tracks : Tracks first now setting) :
    Tracks first now.read setting := by
  obtain ⟨operation, _, holds⟩ := tracks
  refine ⟨operation, nofun, ?_⟩
  cases setting with
  | untouched => exact holds
  | interrupted => exact holds
  | divides divisor => exact ⟨holds.1, holds.2.1, holds.2.2.1, nofun⟩

end Tracks

/-- The control word of a request, behind the status that it has read. -/
theorem tracks_setUp {first now : Counter} (read : now.latched = none) {word : Nat}
    (keeps : field 4 0 word = first.operation.val) : Tracks first (now.setUp word) .interrupted :=
  ⟨Fin.ext keeps, fun _ found => (nomatch read.symm.trans found), rfl⟩

/-- The first byte of a count. -/
theorem write_first {counter : Counter} (access : counter.access.val = 3) (begins : counter.lsb = none)
    (byte : UInt8) : counter.write byte = { counter with lsb := some byte } := by
  simp [Counter.write, Fin.ext_iff, access, begins]

/-- The second one. -/
theorem write_second {counter : Counter} (access : counter.access.val = 3) {lsb : UInt8}
    (begun : counter.lsb = some lsb) (byte : UInt8) :
    counter.write byte =
      { counter with lsb := none, count := some (lsb.toNat + 256 * byte.toNat) } := by
  simp [Counter.write, Fin.ext_iff, access, begun]

/-! ### One request -/

/-- A request: a timer, a frequency, how its port calls go, and what the chip's pins are at each. -/
structure Request where
  timer : UInt8
  freq : UInt32
  bus : PortBus
  pins : Nat → Fin 4

namespace Request

/-- What `timer_set_frequency` returns and calls. -/
def result (request : Request) : Int × List PortCall :=
  timerSetFrequency request.bus request.timer request.freq

/-- It gets as far as the control word. -/
def Begins (request : Request) : Prop :=
  Settable request.timer request.freq ∧ request.bus.accepts 0 = true ∧
    (request.bus.byte 1).isSome = true ∧ request.bus.accepts 2 = true

instance (request : Request) : Decidable request.Begins := by
  unfold Begins Settable
  infer_instance

/-- What it makes of the setting of counter `n`. -/
def react (request : Request) (n : Nat) (setting : Setting) : Setting :=
  if request.timer.toNat = n ∧ request.Begins then
    if request.result.1 = 0 then .divides (1193182 / request.freq.toNat) else .interrupted
  else setting

/-- The three counters behind a request. -/
def apply (counters : Nat → Counter) (request : Request) : Nat → Counter :=
  fun n => (counters n).after n request.bus request.pins 0 request.result.2

/-- The chip answers the reads of the request. -/
def Answered (counters : Nat → Counter) (request : Request) : Prop :=
  ∀ n ≤ 2, (counters n).Answers n request.bus request.pins 0 request.result.2

/-- A request whose status is not read. -/
theorem react_unread {request : Request} (n : Nat) (setting : Setting)
    (unread : ¬ request.Begins) : request.react n setting = setting :=
  if_neg fun both => unread both.2

/-- Behind its control word a request has come through, or is broken off. -/
theorem react_begun {request : Request} (setting : Setting) (begins : request.Begins) :
    request.react request.timer.toNat setting =
      if request.result.1 = 0 then .divides (1193182 / request.freq.toNat) else .interrupted :=
  if_pos ⟨rfl, begins⟩

/-- The first two calls: the status that is read has the mode and the base of the counter. -/
theorem tracks_status {first now : Counter} {setting : Setting} (tracks : Tracks first now setting)
    {request : Request} (valid : request.timer.toNat ≤ 2) (accepts : request.bus.accepts 0 = true)
    {status : UInt8} (byte : request.bus.byte 1 = some status) {rest : List PortCall}
    (answers : now.Answers request.timer.toNat request.bus request.pins 0
      (.outb timerCtrl (readBackCommand request.timer).toUInt32 ::
        .inb (timer0 + request.timer.toNat) :: rest)) :
    now.after request.timer.toNat request.bus request.pins 0
        (.outb timerCtrl (readBackCommand request.timer).toUInt32 ::
          .inb (timer0 + request.timer.toNat) :: rest) =
      Counter.after request.timer.toNat request.bus request.pins 2
        (now.latch (request.pins 0)).read rest ∧
    field 4 0 status.toNat = first.operation.val := by
  obtain ⟨value, answered, low⟩ := Option.map_eq_some_iff.mp byte
  have latches := serve_readBack valid valid (request.pins 0) now
  rw [if_pos rfl] at latches
  constructor
  · have reads := serve_read request.timer.toNat request.timer.toNat (request.pins 1)
      (now.latch (request.pins 0))
    rw [if_pos rfl] at reads
    simp only [Counter.after, PortBus.carriesOut, accepts, Nat.zero_add, Nat.reduceAdd, answered,
      Option.isSome_some, if_true, latches, reads]
  · have read := answers.2.1 rfl
    simp only [PortBus.carriesOut, accepts, if_true, latches, Nat.zero_add] at read
    rw [← low, read _ value rfl answered]
    exact (tracks.latch (request.pins 0)).latched _ rfl

/-- **One request**, wherever it breaks off, on the counter it is for. -/
theorem tracks_own {first now : Counter} {setting : Setting} (tracks : Tracks first now setting)
    (request : Request)
    (answers : now.Answers request.timer.toNat request.bus request.pins 0 request.result.2) :
    Tracks first (now.after request.timer.toNat request.bus request.pins 0 request.result.2)
      (request.react request.timer.toNat setting) := by
  by_cases settable : Settable request.timer request.freq
  swap
  · have calls : request.result.2 = [] := by
      rw [result, timerSetFrequency_refused request.bus settable]
    rw [react_unread _ _ fun begins => settable begins.1, calls]
    exact tracks
  obtain ⟨select, selected, selects⟩ := selectTimer_eq settable.1
  have whole := timerSetFrequency_eq request.bus settable selected (controlWord 0 select)
  change request.result = _ at whole
  cases accepts : request.bus.accepts 0 with
  | false =>
    -- nothing reaches the chip
    rw [react_unread _ _ fun begins => by cases accepts.symm.trans begins.2.1]
    rw [accepts, if_neg Bool.false_ne_true] at whole
    rw [whole]
    simp only [setCalls, List.take, Counter.after, PortBus.carriesOut, accepts]
    exact tracks
  | true =>
  rw [accepts, if_pos rfl] at whole
  cases byte : request.bus.byte 1 with
  | none =>
    -- the status stays latched
    have unanswered : request.bus.answers 1 = none := Option.map_eq_none_iff.mp byte
    have latches := serve_readBack settable.1 settable.1 (request.pins 0) now
    rw [if_pos rfl] at latches
    have unread : ¬ request.Begins := by
      rintro ⟨_, _, read, _⟩
      rw [byte] at read
      cases read
    rw [react_unread _ _ unread]
    rw [byte] at whole
    rw [whole]
    simp only [setCalls, List.take, Counter.after, PortBus.carriesOut, accepts, Nat.zero_add,
      unanswered, if_true, latches]
    exact tracks.latch _
  | some status =>
  rw [byte] at whole
  obtain ⟨_, both, keeps⟩ := controlWord_fields settable.1 status selects
  have controls := serve_controlWord settable.1 selects status request.timer.toNat (request.pins 2)
    (now.latch (request.pins 0)).read
  rw [if_pos rfl] at controls
  cases third : request.bus.accepts 2 with
  | false =>
    have unread : ¬ request.Begins := fun begins => by cases third.symm.trans begins.2.2.2
    simp only [third, Bool.false_eq_true, if_false, setCalls, List.take] at whole
    rw [whole] at answers ⊢
    rw [react_unread _ _ unread, (tracks_status tracks settable.1 accepts byte answers).1]
    simp only [Counter.after, PortBus.carriesOut, third]
    exact (tracks.latch _).read
  | true =>
  have begins : request.Begins := ⟨settable, accepts, by rw [byte]; rfl, third⟩
  rw [react_begun _ begins]
  simp only [third, if_true, setCalls, List.take] at whole
  have divisor := bytes_of_divisor ((divisor_lt_iff (by have := settable.2.1; omega)).mpr settable.2.1)
  have first_byte := serve_byte settable.1 (utilGetLSB (timerFreq / request.freq).toUInt16)
    request.timer.toNat (request.pins 3)
  have second_byte := serve_byte settable.1 (utilGetMSB (timerFreq / request.freq).toUInt16)
    request.timer.toNat (request.pins 4)
  simp only [if_true] at first_byte second_byte
  obtain ⟨up, up_eq⟩ : ∃ up, up =
      (now.latch (request.pins 0)).read.setUp (controlWord status select).toNat := ⟨_, rfl⟩
  rw [← up_eq] at controls
  have access : up.access.val = 3 := by
    rw [up_eq]
    exact both
  have empty : up.lsb = none ∧ up.latched = none := by
    rw [up_eq]
    exact ⟨rfl, rfl⟩
  have begun (kept : field 4 0 status.toNat = first.operation.val) : Tracks first up .interrupted := by
    rw [up_eq]
    exact tracks_setUp rfl (keeps.trans kept)
  cases fourth : request.bus.accepts 3 with
  | false =>
    simp only [fourth, Bool.false_eq_true, if_false] at whole
    rw [whole] at answers ⊢
    obtain ⟨behind, kept⟩ := tracks_status tracks settable.1 accepts byte answers
    rw [behind, if_neg Int.one_ne_zero]
    simp only [Counter.after, PortBus.carriesOut, third, if_true, controls, Nat.reduceAdd, fourth]
    exact begun kept
  | true =>
    simp only [fourth, if_true] at whole
    rw [whole] at answers ⊢
    obtain ⟨behind, kept⟩ := tracks_status tracks settable.1 accepts byte answers
    obtain ⟨operation, latched, counts⟩ := begun kept
    rw [behind]
    simp only [Counter.after, PortBus.carriesOut, third, if_true, controls, Nat.reduceAdd, fourth,
      first_byte, second_byte, write_first access empty.1]
    rw [write_second (by exact access) rfl, divisor]
    cases request.bus.accepts 4 with
    | false => exact ⟨operation, latched, counts⟩
    | true =>
      refine ⟨operation, latched, access, rfl, congrArg some (UInt32.toNat_div ..), fun _ found => ?_⟩
      cases empty.2.symm.trans found

/-- One request, on any of the three counters. -/
theorem tracks_apply {first : Counter} {counters : Nat → Counter} {setting : Setting} {n : Nat}
    (small : n ≤ 2) (tracks : Tracks first (counters n) setting) (request : Request)
    (answered : request.Answered counters) :
    Tracks first (apply counters request n) (request.react n setting) := by
  by_cases own : request.timer.toNat = n
  · subst own
    exact tracks_own tracks request (answered _ small)
  · have same : apply counters request n = counters n := after_other request.bus request.freq small own _ _
    rw [same, react, if_neg fun both => own both.1]
    exact tracks

end Request

/-! ### Sequences of requests -/

/-- A chip between two programs: what is latched is a status in the mode of its counter. -/
def Tidy (counters : Nat → Counter) : Prop :=
  ∀ n status, (counters n).latched = some status → field 4 0 status = (counters n).operation.val

/-- What a sequence of requests leaves counter `n` with. -/
def settingAfter (n : Nat) (requests : List Request) : Setting :=
  Runs.run (fun setting request => request.react n setting) .untouched requests

theorem tracks_run {counters : Nat → Counter} (tidy : Tidy counters) {requests : List Request}
    (answered : Runs.Along Request.apply Request.Answered counters requests) {n : Nat} (small : n ≤ 2) :
    Tracks (counters n) (Runs.run Request.apply counters requests n) (settingAfter n requests) := by
  have start : Tracks (counters n) (counters n) .untouched := ⟨rfl, tidy n, rfl, rfl, rfl⟩
  exact @Runs.run_related _ _ _ Request.apply (fun setting request => request.react n setting)
    (fun now setting => Tracks (counters n) (now n) setting) Request.Answered (fun _ => True)
    (fun now setting request answered _ tracks => Request.tracks_apply small tracks request answered)
    _ _ start _ answered fun _ _ => trivial

/-! ### The configuration that is shown -/

/-- A status that `timer_get_conf` reads. -/
theorem getConf_fields {first now : Counter} {setting : Setting} (tracks : Tracks first now setting)
    {timer : UInt8} (valid : timer.toNat ≤ 2) {bus : PortBus} {pins : Nat → Fin 4}
    (answers : now.Answers timer.toNat bus pins 0 (timerGetConf bus timer []).2) {status : UInt8}
    (read : (timerGetConf bus timer []).1 = some status) :
    field 4 0 status.toNat = first.operation.val ∧
      ∀ divisor, setting = .divides divisor → field 2 4 status.toNat = 3 := by
  have accepted : ¬ timer > 2 := UInt8.not_lt.mpr (UInt8.le_iff_toNat_le.mpr valid)
  have latches := serve_readBack valid valid (pins 0) now
  rw [if_pos rfl] at latches
  rw [timerGetConf, if_neg accepted, sysOutb, List.length_nil] at answers read
  cases accepts : bus.accepts 0 with
  | false =>
    rw [accepts] at read
    cases read
  | true =>
    rw [accepts] at answers read
    obtain ⟨value, answered, low⟩ := Option.map_eq_some_iff.mp read
    have reads := answers.2.1 rfl
    simp only [PortBus.carriesOut, accepts, if_true, latches, Nat.zero_add] at reads
    have latched := tracks.latch (pins 0)
    rw [← low, reads _ value rfl answered]
    refine ⟨latched.latched _ rfl, fun divisor divides => ?_⟩
    have holds := latched.setting
    rw [divides] at holds
    exact holds.2.2.2 _ rfl

/-- Access field of a status, as the display takes it apart. -/
theorem accessField_eq (status : UInt8) : ((status >>> 4) &&& 0x03).toNat = field 2 4 status.toNat := by
  rw [UInt8.toNat_and, UInt8.toNat_shiftRight]
  show (status.toNat >>> 4) &&& (2 ^ 2 - 1) = _
  rw [Nat.and_two_pow_sub_one_eq_mod, Nat.shiftRight_eq_div_pow]
  rfl

/-- The mode field. -/
theorem modeField_eq (status : UInt8) :
    ((status >>> 1) &&& 0x07).toNat = field 4 0 status.toNat / 2 := by
  rw [UInt8.toNat_and, UInt8.toNat_shiftRight]
  show (status.toNat >>> 1) &&& (2 ^ 3 - 1) = status.toNat / 2 ^ 0 % 2 ^ 4 / 2
  rw [Nat.and_two_pow_sub_one_eq_mod, Nat.shiftRight_eq_div_pow]
  omega

/-- The base field. -/
theorem baseField_eq (status : UInt8) : (status &&& 0x01).toNat = field 4 0 status.toNat % 2 := by
  rw [UInt8.toNat_and]
  show status.toNat &&& (2 ^ 1 - 1) = status.toNat / 2 ^ 0 % 2 ^ 4 % 2
  rw [Nat.and_two_pow_sub_one_eq_mod]
  omega

/-- The display of the mode and of the base looks at the four low bits only. -/
theorem timerDisplayConf_congr {status other : UInt8}
    (same : field 4 0 status.toNat = field 4 0 other.toNat) :
    timerDisplayConf status .mode = timerDisplayConf other .mode ∧
      timerDisplayConf status .base = timerDisplayConf other .base := by
  have mode : ((status >>> 1) &&& 0x07 : UInt8) = ((other >>> 1) &&& 0x07 : UInt8) := by
    rw [← UInt8.toNat_inj, modeField_eq, modeField_eq, same]
  have base : status &&& 0x01 = other &&& 0x01 := by
    rw [← UInt8.toNat_inj, baseField_eq, baseField_eq, same]
  unfold timerDisplayConf
  simp only [mode, base, and_self]

/-- A counter that takes both bytes of a count is shown as `MSB_after_LSB`. -/
theorem timerDisplayConf_initial {status : UInt8} (both : field 2 4 status.toNat = 3) :
    timerDisplayConf status .initial = .inMode .msbAfterLsb := by
  have access : (status >>> 4) &&& 0x03 = 3 := by
    rw [← UInt8.toNat_inj, accessField_eq, both]
    rfl
  unfold timerDisplayConf
  simp only [access]
  rfl

/-- What `timer_test_read_config` may show of a counter: the access of the last request that came through,
and the mode and the base that the counter had at the beginning. -/
def Shown (first : Counter) (setting : Setting) (value : TimerStatusFieldVal) :
    TimerStatusField → Prop
  | .all => ∃ status, value = .byte status ∧ field 4 0 status.toNat = first.operation.val
  | .initial => ∀ divisor, setting = .divides divisor → value = .inMode .msbAfterLsb
  | .mode => ∀ before : UInt8, field 4 0 before.toNat = first.operation.val →
    value = timerDisplayConf before .mode
  | .base => ∀ before : UInt8, field 4 0 before.toNat = first.operation.val →
    value = timerDisplayConf before .base

/-- What is shown of a counter that is tracked. -/
theorem config_tracks {first now : Counter} {setting : Setting} (tracks : Tracks first now setting)
    {timer : UInt8} (valid : timer.toNat ≤ 2) {bus : PortBus} {pins : Nat → Fin 4}
    {shown : TimerStatusField} {calls : List PortCall} {value : TimerStatusFieldVal}
    (answers : now.Answers timer.toNat bus pins 0 calls)
    (prints : timerTestReadConfig bus true timer shown = (0, calls, some value)) :
    Shown first setting value shown := by
  unfold timerTestReadConfig at prints
  cases conf : timerGetConf bus timer [] with
  | mk read made =>
  rw [conf] at prints
  cases read with
  | none => cases prints
  | some status =>
    cases prints
    have same : (timerGetConf bus timer []).2 = calls := by rw [conf]
    obtain ⟨operation, access⟩ := getConf_fields tracks valid (same ▸ answers) (by rw [conf])
    cases shown with
    | all => exact ⟨status, rfl, operation⟩
    | initial => exact fun divisor divides => timerDisplayConf_initial (access divisor divides)
    | mode => exact fun before same => (timerDisplayConf_congr (operation.trans same.symm)).1
    | base => exact fun before same => (timerDisplayConf_congr (operation.trans same.symm)).2

/-- A chip whose counters count in mode 2, as the status `0x34` says. -/
def bootCounters : Nat → Counter := fun _ =>
  ⟨⟨3, by decide⟩, ⟨4, by decide⟩, none, some 65536, none⟩

end Timer

end SpaceInvaders
