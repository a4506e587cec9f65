/-
**The main loop**: `init_game`, `close_game` and `proj_main_loop` of `main.c`.

What the two ends of the program call outside the game is a list of calls that stops at the first failure
(`attempt`); a trace keeps which calls were made and how they went. Between them stands the run of
`menu_handler` that `Program` models.
-/

import SpaceInvaders.Model.Program

namespace SpaceInvaders

/-- The functions `init_game` and `close_game` call and test. -/
inductive Call
  | timerSetFrequency
  | setFrameBuffer
  | setGraphicalMode
  | kbSubscribeInt
  | timerSubscribeInt
  | kbUnsubscribeInt
  | timerUnsubscribeInt
  | vgExit
deriving DecidableEq

/-- The calls made, in their order, with their success. -/
abbrev Trace : Type := List (Call × Bool)

/-- Make the calls one after the other and return 1 at the first that fails. -/
def attempt (succeeds : Call → Bool) : List Call → Int × Trace
  | [] => (0, [])
  | call :: rest =>
    if succeeds call then
      let after := attempt succeeds rest
      (after.1, (call, true) :: after.2)
    else (1, [(call, false)])

/-- The calls of `init_game`; what it does after them, reading the scores and `menu_init`, cannot
fail. -/
def initGameCalls : List Call :=
  [.timerSetFrequency, .setFrameBuffer, .setGraphicalMode, .kbSubscribeInt, .timerSubscribeInt]

/-- The calls of `close_game`. -/
def closeGameCalls : List Call := [.kbUnsubscribeInt, .timerUnsubscribeInt, .vgExit]

/-- The function `proj_main_loop`, when `set_frame_buffer` reports `mode` and `driver_receive` brings
these messages: its return value and the calls made, or `none` while `menu_handler` still runs. -/
def projMainLoop (succeeds : Call → Bool) (mode : ModeInfo) (csv : Option (List UInt8))
    (messages : List Receive) : Option (Int × Trace) :=
  let init := attempt succeeds initGameCalls
  if init.1 ≠ 0 then some (1, init.2)
  else
    match (run mode (start csv) messages).control with
    | .returned code =>
      if code ≠ 0 then some (1, init.2)
      else
        let close := attempt succeeds closeGameCalls
        some (close.1, init.2 ++ close.2)
    | _ => none

/-- **A row of calls that succeeds** has made all of them. -/
theorem attempt_of_all {succeeds : Call → Bool} {calls : List Call}
    (all : ∀ call ∈ calls, succeeds call = true) :
    attempt succeeds calls = (0, calls.map fun call => (call, true)) := by
  induction calls with
  | nil => rfl
  | cons call rest ih =>
    rw [attempt, if_pos (all call List.mem_cons_self),
      ih fun other member => all other (List.mem_cons_of_mem _ member)]
    rfl

/-- A row of calls that fails has made the ones before the failing one. -/
theorem attempt_append {succeeds : Call → Bool} {before : List Call} {failing : Call}
    (all : ∀ call ∈ before, succeeds call = true) (fails : succeeds failing = false)
    (rest : List Call) :
    attempt succeeds (before ++ failing :: rest) =
      (1, (before.map fun call => (call, true)) ++ [(failing, false)]) := by
  induction before with
  | nil =>
    rw [List.nil_append, attempt, if_neg (by rw [fails]; exact Bool.false_ne_true)]
    rfl
  | cons call before ih =>
    rw [List.cons_append, attempt, if_pos (all call List.mem_cons_self),
      ih fun other member => all other (List.mem_cons_of_mem _ member)]
    rfl

/-- Either all calls of a row succeed, or there is a first that fails. -/
theorem first_failing (succeeds : Call → Bool) (calls : List Call) :
    (∀ call ∈ calls, succeeds call = true) ∨
      ∃ before failing rest, calls = before ++ failing :: rest ∧
        (∀ call ∈ before, succeeds call = true) ∧ succeeds failing = false := by
  induction calls with
  | nil => exact .inl fun call member => absurd member List.not_mem_nil
  | cons call rest ih =>
    cases success : succeeds call with
    | false => exact .inr ⟨[], call, rest, rfl, fun _ member => absurd member List.not_mem_nil, success⟩
    | true =>
      rcases ih with all | ⟨before, failing, after, rfl, all, fails⟩
      · exact .inl (List.forall_mem_cons.mpr ⟨success, all⟩)
      · exact .inr ⟨call :: before, failing, after, rfl, List.forall_mem_cons.mpr ⟨success, all⟩, fails⟩

end SpaceInvaders
