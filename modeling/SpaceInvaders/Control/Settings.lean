/-
**What `kb_restore_settings` writes back.**

The function asks for the command byte and then takes the first byte of the output buffer for it. A
scancode that waits there is in front of the answer, so it is the scancode that is written back, with
bit 0 set, and the command byte stays behind in the buffer.

* `Completes` — which timings let the exchange through. What the buffer and the command byte hold
  makes no difference to that.
* `kbRestoreSettings_eq_zero_iff` — the function returns 0 at exactly these, and what the controller is
  then.
* `commandByte_of_failed` — a call that gives up anywhere leaves the command byte alone.
* `changesOnlyBit0_iff` — a call that returns 0 changes no bit but bit 0 exactly when no scancode waits
  or the first one happens to be the command byte, bit 0 apart.
-/

import SpaceInvaders.Model.Settings

namespace SpaceInvaders

namespace Kbc

variable {timing : Timing} {kbc later : Kbc}

/-! ### The timing of an exchange -/

/-- A command gets through: of ten polls from `start` the one at `call` finds the input buffer empty,
and the write behind it succeeds. -/
def Accepts (timing : Timing) (start call : Nat) : Prop :=
  (∃ status, Polling.FirstReady timing InputFree start 10 call status) ∧ timing (call + 1) ≠ none

/-- A byte is read: of ten polls from `start` the one at `call` finds the output buffer full, without
an error and from the keyboard, and the read behind it succeeds. -/
def Answers (timing : Timing) (start call : Nat) : Prop :=
  (∃ status, Polling.FirstReady timing OutputFull start 10 call status ∧
    checkKeyboardOutput status false = 0) ∧ timing (call + 1) ≠ none

/-- The whole exchange, from the call `start`: a command, an answer, a command and its argument. -/
def Exchange (timing : Timing) (start asked answered told : Nat) : Prop :=
  Accepts timing start asked ∧ Answers timing (asked + 2) answered ∧
    Accepts timing (answered + 2) told ∧ timing (told + 2) ≠ none

/-- The timing lets the exchange through. -/
def Completes (timing : Timing) (start : Nat) : Prop :=
  ∃ asked answered told, Exchange timing start asked answered told

/-! ### The helpers -/

/-- The buffer has no part in the test for an empty input buffer. -/
theorem inputFree_seen (status : UInt8) : InputFree (kbc.seen status) ↔ InputFree status := by
  unfold seen
  by_cases empty : kbc.output = []
  · rw [if_pos empty, InputFree, UInt8.and_assoc]
    exact Iff.rfl
  · rw [if_neg empty]

/-- **A command** returns 0, and takes effect, exactly when the timing lets it through. -/
theorem writeKeyboardCommand_eq_zero_iff {port : Nat} {command : UInt8} :
    kbc.writeKeyboardCommand timing port command = (0, later) ↔
      ∃ call, Accepts timing kbc.calls call ∧
        later = write port command { kbc with calls := call + 2 } := by
  have polled (status : UInt8) (reached : Kbc) :=
    @pollStatus_eq_some_iff timing kbc reached InputFree _ 10 status inputFree_seen
  constructor
  · intro done
    unfold writeKeyboardCommand at done
    rcases ended : kbc.pollStatus timing InputFree 10 with ⟨_ | status, reached⟩
    · rw [ended] at done
      cases done
    · obtain ⟨call, answer, first, -, rfl⟩ := (polled status reached).mp ended
      rw [ended] at done
      simp only [sysOutb] at done
      cases succeeds : timing (call + 1) with
      | none =>
        rw [succeeds] at done
        cases done
      | some written =>
        rw [succeeds] at done
        exact ⟨call, ⟨⟨answer, first⟩, by simp [succeeds]⟩, (Prod.mk.inj done).2.symm⟩
  · rintro ⟨call, ⟨⟨status, first⟩, accepted⟩, rfl⟩
    obtain ⟨written, succeeds⟩ := Option.ne_none_iff_exists'.mp accepted
    have ended := (polled _ _).mpr ⟨call, status, first, rfl, rfl⟩
    rw [writeKeyboardCommand, ended]
    simp only [sysOutb, succeeds]
    rfl

/-- **A read** from a buffer that holds bytes takes the first one. -/
theorem readKeyboardOutput_eq_zero_iff {output byte data : UInt8} {rest : List UInt8}
    (holds : kbc.output = byte :: rest) :
    kbc.readKeyboardOutput timing keyboardOutCmd output false = (0, data, later) ↔
      ∃ call, Answers timing kbc.calls call ∧ data = byte ∧
        later = { kbc with output := rest, calls := call + 2 } := by
  have whole (status : UInt8) : kbc.seen status = status := if_neg (by simp [holds])
  have polled (status : UInt8) (reached : Kbc) :=
    @pollStatus_eq_some_iff timing kbc reached OutputFull _ 10 status fun status => by rw [whole]
  have reads (call : Nat) (status : UInt8) :=
    @utilSysInb_data timing { kbc with calls := call } byte rest holds status
  constructor
  · intro done
    unfold readKeyboardOutput at done
    rcases ended : kbc.pollStatus timing OutputFull 10 with ⟨_ | status, reached⟩
    · rw [ended] at done
      cases done
    · obtain ⟨call, answer, first, rfl, rfl⟩ := (polled status reached).mp ended
      rw [ended] at done
      simp only at done
      cases succeeds : timing (call + 1) with
      | none =>
        rw [utilSysInb_failed succeeds] at done
        cases done
      | some read =>
        rw [reads (call + 1) read succeeds, whole] at done
        obtain ⟨checked, taken⟩ := Prod.mk.inj done
        obtain ⟨taken, left⟩ := Prod.mk.inj taken
        exact ⟨call, ⟨⟨answer, first, checked⟩, by simp [succeeds]⟩, taken.symm, left.symm⟩
  · rintro ⟨call, ⟨⟨status, first, checked⟩, answered⟩, rfl, rfl⟩
    obtain ⟨read, succeeds⟩ := Option.ne_none_iff_exists'.mp answered
    have ended := (polled _ _).mpr ⟨call, status, first, rfl, rfl⟩
    rw [readKeyboardOutput, ended]
    simp only
    rw [reads (call + 1) read succeeds, whole, checked]
    rfl

/-! ### The function -/

/-- The early return after a failed call. -/
theorem unless_failed_iff {code : Int} {next : Int × Kbc} :
    (if code ≠ 0 then (1, kbc) else next) = (0, later) ↔ code = 0 ∧ next = (0, later) := by
  by_cases ok : code = 0
  · rw [if_neg (not_not.mpr ok)]
    simp [ok]
  · rw [if_pos ok]
    simp [ok]

/-- The four steps of a call that returns 0. -/
theorem kbRestoreSettings_steps_iff {configByte : UInt8} :
    kbc.kbRestoreSettings timing configByte = (0, later) ↔
      ∃ first read second third,
        kbc.writeKeyboardCommand timing keyboardInCmd keyboardReadCmd = (0, first) ∧
        first.readKeyboardOutput timing keyboardOutCmd configByte false = (0, read, second) ∧
        second.writeKeyboardCommand timing keyboardInCmd keyboardWriteCmd = (0, third) ∧
        third.sysOutb timing keyboardWriteCmd.toNat (read ||| bit 0) = (true, later) := by
  unfold kbRestoreSettings
  constructor
  · intro done
    rcases asks : kbc.writeKeyboardCommand timing keyboardInCmd keyboardReadCmd with ⟨code, first⟩
    rw [asks] at done
    replace done := unless_failed_iff.mp done
    obtain ⟨rfl, done⟩ := done
    rcases reads : first.readKeyboardOutput timing keyboardOutCmd configByte false with
      ⟨code, read, second⟩
    rw [reads] at done
    replace done := unless_failed_iff.mp done
    obtain ⟨rfl, done⟩ := done
    rcases tells : second.writeKeyboardCommand timing keyboardInCmd keyboardWriteCmd with ⟨code, third⟩
    rw [tells] at done
    replace done := unless_failed_iff.mp done
    obtain ⟨rfl, done⟩ := done
    rcases writes : third.sysOutb timing keyboardWriteCmd.toNat (read ||| bit 0) with ⟨_ | _, last⟩
    · simp [writes] at done
    · refine ⟨first, read, second, third, rfl, reads, tells, ?_⟩
      simpa [writes] using done
  · rintro ⟨first, read, second, third, asks, reads, tells, writes⟩
    rw [asks]
    refine unless_failed_iff.mpr ⟨rfl, ?_⟩
    rw [reads]
    refine unless_failed_iff.mpr ⟨rfl, ?_⟩
    rw [tells]
    refine unless_failed_iff.mpr ⟨rfl, ?_⟩
    rw [writes]
    rfl

theorem sysOutb_eq_true_iff {port : Nat} {value : UInt8} :
    kbc.sysOutb timing port value = (true, later) ↔
      timing kbc.calls ≠ none ∧ later = kbc.tick.write port value := by
  unfold sysOutb
  cases timing kbc.calls with
  | none => simp
  | some status => simp [eq_comm]

/-- **When the function returns 0, and what it leaves**: the first byte of the buffer with the answer
behind it becomes the command byte, with bit 0 set. -/
theorem kbRestoreSettings_eq_zero_iff {configByte byte : UInt8} {rest : List UInt8}
    (queue : kbc.output ++ [kbc.commandByte] = byte :: rest) :
    kbc.kbRestoreSettings timing configByte = (0, later) ↔
      ∃ asked answered told, Exchange timing kbc.calls asked answered told ∧
        later = ⟨rest, byte ||| bit 0, false, told + 3⟩ := by
  -- the last byte written, behind the command for it
  have stored (told : Nat) : write keyboardWriteCmd.toNat (byte ||| bit 0)
      (tick (write keyboardInCmd keyboardWriteCmd { kbc with output := rest, calls := told + 2 })) =
        ⟨rest, byte ||| bit 0, false, told + 3⟩ := write_argument rfl
  rw [kbRestoreSettings_steps_iff]
  constructor
  · rintro ⟨first, read, second, third, asks, reads, tells, writes⟩
    obtain ⟨asked, accepted, rfl⟩ := writeKeyboardCommand_eq_zero_iff.mp asks
    obtain ⟨answered, came, rfl, rfl⟩ := (readKeyboardOutput_eq_zero_iff queue).mp reads
    obtain ⟨told, again, rfl⟩ := writeKeyboardCommand_eq_zero_iff.mp tells
    obtain ⟨written, rfl⟩ := sysOutb_eq_true_iff.mp writes
    exact ⟨asked, answered, told, ⟨accepted, came, again, written⟩, stored told⟩
  · rintro ⟨asked, answered, told, ⟨accepted, came, again, written⟩, rfl⟩
    refine ⟨_, byte, _, _, writeKeyboardCommand_eq_zero_iff.mpr ⟨asked, accepted, rfl⟩,
      (readKeyboardOutput_eq_zero_iff queue).mpr ⟨answered, came, rfl, rfl⟩,
      writeKeyboardCommand_eq_zero_iff.mpr ⟨told, again, rfl⟩,
      sysOutb_eq_true_iff.mpr ⟨written, (stored told).symm⟩⟩

/-! ### Failed calls -/

theorem utilSysInb_commandByte (port : Nat) :
    (kbc.utilSysInb timing port).2.commandByte = kbc.commandByte := by
  unfold utilSysInb sysInb
  cases timing kbc.calls with
  | none => rfl
  | some status =>
    by_cases poll : port = keyboardStatus
    · simp [poll, tick]
    · simp [poll, tick]

theorem pollStatus_commandByte (ready : UInt8 → Prop) [DecidablePred ready] (trys : Nat) :
    (kbc.pollStatus timing ready trys).2.commandByte = kbc.commandByte := by
  induction trys generalizing kbc with
  | zero => rfl
  | succ trys ih =>
    have kept := @utilSysInb_commandByte timing kbc keyboardStatus
    unfold pollStatus
    generalize kbc.utilSysInb timing keyboardStatus = polled at kept ⊢
    obtain ⟨_ | status, next⟩ := polled
    · exact kept
    · by_cases isReady : ready status
      · simpa [isReady] using kept
      · simpa [isReady, ih] using kept

theorem readKeyboardOutput_commandByte (port : Nat) (output : UInt8) (mouse : Bool) :
    (kbc.readKeyboardOutput timing port output mouse).2.2.commandByte = kbc.commandByte := by
  have polled := @pollStatus_commandByte timing kbc OutputFull _ 10
  unfold readKeyboardOutput
  generalize kbc.pollStatus timing OutputFull 10 = loop at polled ⊢
  obtain ⟨_ | status, reached⟩ := loop
  · exact polled
  · have read := @utilSysInb_commandByte timing reached port
    simp only
    generalize reached.utilSysInb timing port = taken at read ⊢
    obtain ⟨_ | data, next⟩ := taken
    · exact read.trans polled
    · exact read.trans polled

/-- A command as such changes no command byte. -/
theorem writeKeyboardCommand_commandByte (command : UInt8) :
    (kbc.writeKeyboardCommand timing keyboardInCmd command).2.commandByte = kbc.commandByte := by
  have polled := @pollStatus_commandByte timing kbc InputFree _ 10
  unfold writeKeyboardCommand
  generalize kbc.pollStatus timing InputFree 10 = loop at polled ⊢
  obtain ⟨_ | status, reached⟩ := loop
  · exact polled
  · rw [← polled]
    simp only [sysOutb]
    cases timing reached.calls with
    | none => rfl
    | some written =>
      show (reached.tick.write keyboardInCmd command).commandByte = reached.commandByte
      rw [write, if_pos rfl]
      split
      · rfl
      · split
        · rfl
        · rfl

/-- The early return after a failed call, when the controller still has its command byte. -/
theorem commandByte_unless_failed {code : Int} {next : Int × Kbc} {byte : UInt8}
    (kept : kbc.commandByte = byte) (goesOn : next.1 ≠ 0 → next.2.commandByte = byte)
    (failed : (if code ≠ 0 then (1, kbc) else next).1 ≠ 0) :
    (if code ≠ 0 then (1, kbc) else next).2.commandByte = byte := by
  by_cases early : code ≠ 0
  · rw [if_pos early]
    exact kept
  · rw [if_neg early] at failed ⊢
    exact goesOn failed

/-- The last write is the only one that could change the command byte; with it the call returns 0. -/
theorem commandByte_unwritten {port : Nat} {value byte : UInt8} (kept : kbc.commandByte = byte)
    (failed : (match kbc.sysOutb timing port value with
      | (done, next) => if done then ((0 : Int), next) else (1, next)).1 ≠ 0) :
    (match kbc.sysOutb timing port value with
      | (done, next) => if done then ((0 : Int), next) else (1, next)).2.commandByte = byte := by
  rw [sysOutb] at failed ⊢
  cases writes : timing kbc.calls with
  | none => exact kept
  | some written =>
    rw [writes] at failed
    exact absurd rfl failed

/-- **A call that fails leaves the command byte alone**, wherever it gives up. -/
theorem commandByte_of_failed {configByte : UInt8} :
    (kbc.kbRestoreSettings timing configByte).1 ≠ 0 →
      (kbc.kbRestoreSettings timing configByte).2.commandByte = kbc.commandByte := by
  have asks := @writeKeyboardCommand_commandByte timing kbc keyboardReadCmd
  unfold kbRestoreSettings
  apply commandByte_unless_failed asks
  have reads := (@readKeyboardOutput_commandByte timing _ keyboardOutCmd configByte false).trans asks
  apply commandByte_unless_failed reads
  have tells := (@writeKeyboardCommand_commandByte timing _ keyboardWriteCmd).trans reads
  apply commandByte_unless_failed tells
  exact commandByte_unwritten tells

/-! ### The bits it changes -/

/-- If the function returns 0, the command byte is the old one with bit 0 set. -/
def ChangesOnlyBit0 (timing : Timing) (configByte : UInt8) (kbc : Kbc) : Prop :=
  (kbc.kbRestoreSettings timing configByte).1 = 0 →
    (kbc.kbRestoreSettings timing configByte).2.commandByte = kbc.commandByte ||| bit 0

instance (timing : Timing) (configByte : UInt8) (kbc : Kbc) :
    Decidable (ChangesOnlyBit0 timing configByte kbc) := inferInstanceAs (Decidable (_ → _))

/-- What counts is the first byte of the buffer: the first scancode that waits, or the answer. -/
theorem changesOnlyBit0_iff_first {configByte byte : UInt8} {rest : List UInt8}
    (queue : kbc.output ++ [kbc.commandByte] = byte :: rest) :
    ChangesOnlyBit0 timing configByte kbc ↔
      (Completes timing kbc.calls → byte ||| bit 0 = kbc.commandByte ||| bit 0) := by
  unfold ChangesOnlyBit0
  constructor
  · rintro only ⟨asked, answered, told, exchange⟩
    have done := (@kbRestoreSettings_eq_zero_iff timing kbc _ configByte byte rest queue).mpr
      ⟨asked, answered, told, exchange, rfl⟩
    rw [done] at only
    exact only rfl
  · intro same returned
    rcases ended : kbc.kbRestoreSettings timing configByte with ⟨code, later⟩
    rw [ended] at returned
    obtain rfl : code = 0 := returned
    obtain ⟨asked, answered, told, exchange, rfl⟩ := (kbRestoreSettings_eq_zero_iff queue).mp ended
    exact same ⟨asked, answered, told, exchange⟩

/-- **When only bit 0 changes**: exactly when the timing does not let the exchange through, or no
scancode waits, or the first one is the command byte, bit 0 apart. -/
theorem changesOnlyBit0_iff (timing : Timing) (configByte : UInt8) (kbc : Kbc) :
    ChangesOnlyBit0 timing configByte kbc ↔
      ¬ Completes timing kbc.calls ∨
        ∀ byte ∈ kbc.output.head?, byte ||| bit 0 = kbc.commandByte ||| bit 0 := by
  rw [← imp_iff_not_or]
  cases holds : kbc.output with
  | nil =>
    rw [@changesOnlyBit0_iff_first timing kbc configByte kbc.commandByte [] (by rw [holds]; rfl)]
    simp
  | cons byte rest =>
    rw [@changesOnlyBit0_iff_first timing kbc configByte byte (rest ++ [kbc.commandByte])
      (by rw [holds]; rfl)]
    simp

/-- **A waiting key is written back**: with the make code of A in the buffer the command byte `0x44`
becomes `0x1F`, and is itself left in the buffer. -/
theorem not_changesOnlyBit0_kbA :
    kbRestoreSettings (fun _ => some (bit 0)) 0 ⟨[kbA], 0x44, false, 0⟩ =
        (0, ⟨[0x44], 0x1F, false, 7⟩) ∧
      ¬ ChangesOnlyBit0 (fun _ => some (bit 0)) 0 ⟨[kbA], 0x44, false, 0⟩ := by
  decide

end Kbc

end SpaceInvaders
