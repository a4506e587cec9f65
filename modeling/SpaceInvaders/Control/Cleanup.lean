/-
**What the program leaves behind.**

`close_game` is the only place that cleans up. It is not reached when `init_game` or `menu_handler`
fails, and stops itself at its first failure.

* `unfailed_run_iff`: `menu_handler` fails exactly when a checked drawing call of it does;
* `cleans_up_iff`: the runs of `proj_main_loop` that leave nothing behind;
* `not_cleanedUp_timer`: a failing timer subscription.
-/

import SpaceInvaders.Game.Outcome
import SpaceInvaders.Model.MainLoop

namespace SpaceInvaders

/-! ### The return value of `menu_handler` -/

/-- The checked drawing calls of the timer branch of `menu_handler` succeed. -/
def menuDraws (mode : ModeInfo) (globals : Globals) : Prop :=
  (globals.menu.currentState = .start → drawShip mode globals.arena.x = 0) ∧
    (globals.menu.currentState = .scores → drawsScores mode globals = true)

/-- The checked drawing calls made for a message succeed. -/
def DrawsMessage (mode : ModeInfo) (program : Program) : Receive → Prop
  | .hardware keyboard (some answers) =>
    match program.control with
    | .menuHandler => menuDraws mode (menuInput keyboard program.globals)
    | .gameState => drawsFrame mode (tickGlobals mode keyboard answers program.globals).arena = true
    | _ => True
  | _ => True

/-- The program has not returned 1. -/
def Unfailed (program : Program) : Prop :=
  ∀ code, program.control = .returned code → code = 0

theorem unfailed_menuHandlerLoop (globals : Globals) : Unfailed (menuHandlerLoop globals) := by
  intro code returned
  rcases menuHandlerLoop_control globals with waits | ends
  · rw [waits] at returned
    cases returned
  · rw [ends] at returned
    cases returned
    rfl

theorem unfailed_gameStateLoop (globals : Globals) : Unfailed (gameStateLoop globals) := by
  unfold gameStateLoop
  split
  · exact unfailed_menuHandlerLoop _
  · exact fun code returned => by cases returned

theorem unfailed_scoreStateLoop (globals : Globals) : Unfailed (scoreStateLoop globals) := by
  unfold scoreStateLoop
  split
  · exact unfailed_menuHandlerLoop _
  · exact fun code returned => by cases returned

theorem failed_of_one {globals : Globals} : ¬ Unfailed ⟨.returned 1, globals⟩ := fun unfailed =>
  absurd (unfailed 1 rfl) (by decide)

theorem unfailed_startGame_iff (mode : ModeInfo) (globals : Globals) :
    Unfailed (startGame mode globals) ↔ drawShip mode globals.arena.x = 0 := by
  unfold startGame
  split
  · rename_i fails
    exact iff_of_false failed_of_one fails
  · rename_i drawn
    exact iff_of_true (unfailed_gameStateLoop _) (not_not.mp drawn)

theorem unfailed_showScores_iff (mode : ModeInfo) (globals : Globals) :
    Unfailed (showScores mode globals) ↔ drawsScores mode globals = true := by
  unfold showScores
  split
  · rename_i drawn
    exact iff_of_true (unfailed_scoreStateLoop _) drawn
  · rename_i fails
    exact iff_of_false failed_of_one fails

/-- The timer branch of `menu_handler` fails exactly when its drawing does. -/
theorem unfailed_menuTimer_iff (mode : ModeInfo) (globals : Globals) :
    Unfailed (menuTimer mode globals) ↔ menuDraws mode globals := by
  simp only [menuTimer, menuDraws]
  cases globals.menu.currentState with
  | start =>
    refine (unfailed_startGame_iff mode _).trans ⟨fun drawn => ⟨fun _ => drawn, ?_⟩, ?_⟩
    · exact fun same => by cases same
    · exact fun both => both.1 rfl
  | scores =>
    refine (unfailed_showScores_iff mode _).trans ⟨fun drawn => ⟨?_, fun _ => drawn⟩, ?_⟩
    · exact fun same => by cases same
    · exact fun both => both.2 rfl
  | exit =>
    exact iff_of_true (fun code returned => by cases returned; rfl)
      ⟨fun same => (by cases same), fun same => (by cases same)⟩
  | main =>
    exact iff_of_true (unfailed_menuHandlerLoop _)
      ⟨fun same => (by cases same), fun same => (by cases same)⟩
  | gameOver =>
    exact iff_of_true (unfailed_menuHandlerLoop _)
      ⟨fun same => (by cases same), fun same => (by cases same)⟩
  | quit =>
    exact iff_of_true (unfailed_menuHandlerLoop _)
      ⟨fun same => (by cases same), fun same => (by cases same)⟩

/-- The end of a tick fails exactly when its drawing does. -/
theorem unfailed_finishTick_iff (mode : ModeInfo) (answers : Answers) (ticked : Globals) :
    Unfailed (finishTick mode answers ticked) ↔ drawsFrame mode ticked.arena = true := by
  unfold finishTick
  split
  · rename_i fails
    exact iff_of_false failed_of_one fails
  · rename_i drawn
    refine iff_of_true ?_ (not_not.mp drawn)
    split
    · exact unfailed_menuHandlerLoop _
    split
    · exact unfailed_menuHandlerLoop _
    · exact unfailed_gameStateLoop _

/-- **One message** makes the program fail exactly when a checked drawing call fails. -/
theorem unfailed_step_iff (mode : ModeInfo) {program : Program} (unfailed : Unfailed program)
    (receive : Receive) : Unfailed (step mode program receive) ↔ DrawsMessage mode program receive := by
  obtain ⟨control, globals⟩ := program
  cases control with
  | returned code =>
    refine iff_of_true unfailed ?_
    unfold DrawsMessage
    split <;> trivial
  | menuHandler =>
    cases receive with
    | failed => exact iff_of_true (unfailed_menuHandlerLoop _) trivial
    | ignored => exact iff_of_true (unfailed_menuHandlerLoop _) trivial
    | hardware keyboard timer =>
      cases timer with
      | none => exact iff_of_true (unfailed_menuHandlerLoop _) trivial
      | some answers => exact unfailed_menuTimer_iff mode (menuInput keyboard globals)
  | gameState =>
    cases receive with
    | failed => exact iff_of_true (unfailed_gameStateLoop _) trivial
    | ignored => exact iff_of_true (unfailed_gameStateLoop _) trivial
    | hardware keyboard timer =>
      cases timer with
      | none => exact iff_of_true (unfailed_gameStateLoop _) trivial
      | some answers => exact unfailed_finishTick_iff mode answers _
  | scoreState =>
    have leaves : ∀ globals, Unfailed (leaveScores globals) := fun _ => unfailed_menuHandlerLoop _
    refine iff_of_true ?_ (by unfold DrawsMessage; split <;> trivial)
    cases receive with
    | failed => exact unfailed_scoreStateLoop _
    | ignored => exact unfailed_scoreStateLoop _
    | hardware keyboard timer =>
      cases keyboard with
      | none => exact unfailed_scoreStateLoop _
      | some ports =>
        show Unfailed (if _ then leaveScores _ else scoreStateLoop _)
        split
        · exact leaves _
        · exact unfailed_scoreStateLoop _

/-- A failed program stays as it is. -/
theorem failed_run (mode : ModeInfo) {program : Program} (failed : ¬ Unfailed program)
    (messages : List Receive) : ¬ Unfailed (run mode program messages) := by
  refine @Runs.run_invariant _ _ (step mode) (fun program => ¬ Unfailed program)
    (fun program receive failed => ?_) program failed messages
  obtain ⟨control, globals⟩ := program
  cases control with
  | returned code => exact failed
  | menuHandler => exact absurd (fun code returned => by cases returned) failed
  | gameState => exact absurd (fun code returned => by cases returned) failed
  | scoreState => exact absurd (fun code returned => by cases returned) failed

/-- **A run of `menu_handler` fails** exactly when a checked drawing call of it does. -/
theorem unfailed_run_iff (mode : ModeInfo) {program : Program} (unfailed : Unfailed program)
    (messages : List Receive) :
    Unfailed (run mode program messages) ↔
      Runs.Along (step mode) (DrawsMessage mode) program messages := by
  induction messages generalizing program with
  | nil => exact iff_of_true unfailed trivial
  | cons receive messages ih =>
    have first := unfailed_step_iff mode unfailed receive
    rw [Runs.along_cons, ← first]
    by_cases after : Unfailed (step mode program receive)
    · rw [← ih after]
      exact ⟨fun rest => ⟨after, rest⟩, fun both => both.2⟩
    · exact iff_of_false (failed_run mode after messages) fun both => after both.1

/-! ### What a trace leaves behind -/

/-- Every successful call of the first function is followed by a call of the second. -/
def FollowedBy (trace : Trace) (first second : Call) : Prop :=
  ∀ before after, trace = before ++ (first, true) :: after → ∃ result, (second, result) ∈ after

/-- Both subscriptions are followed by their unsubscription calls, and `vg_exit` is called if the
graphics mode was set. -/
def CleanedUp (trace : Trace) : Prop :=
  FollowedBy trace .kbSubscribeInt .kbUnsubscribeInt ∧
    FollowedBy trace .timerSubscribeInt .timerUnsubscribeInt ∧
    ((.setGraphicalMode, true) ∈ trace → ∃ result, (.vgExit, result) ∈ trace)

@[simp] theorem followedBy_nil (first second : Call) : FollowedBy [] first second := by
  intro before after split
  exact absurd split.symm (List.append_ne_nil_of_right_ne_nil _ (List.cons_ne_nil _ _))

@[simp] theorem followedBy_cons {entry : Call × Bool} {trace : Trace} {first second : Call} :
    FollowedBy (entry :: trace) first second ↔
      (entry = (first, true) → ∃ result, (second, result) ∈ trace) ∧
        FollowedBy trace first second := by
  constructor
  · refine fun followed => ⟨fun same => ?_, fun before after split => ?_⟩
    · exact followed [] trace (by rw [same, List.nil_append])
    · exact followed (entry :: before) after (by rw [split, List.cons_append])
  · rintro ⟨head, rest⟩ before after split
    cases before with
    | nil =>
      obtain ⟨same, rfl⟩ := List.cons.inj split
      exact head same
    | cons other before => exact rest before after (List.cons.inj split).2

/-- **Init and close.** A whole `init_game` and what `close_game` does after it leave nothing behind
exactly when both unsubscriptions succeed. -/
theorem cleanedUp_close_iff (succeeds : Call → Bool) :
    CleanedUp ((initGameCalls.map fun call => (call, true)) ++ (attempt succeeds closeGameCalls).2) ↔
      succeeds .kbUnsubscribeInt = true ∧ succeeds .timerUnsubscribeInt = true := by
  cases keyboard : succeeds .kbUnsubscribeInt <;> cases timer : succeeds .timerUnsubscribeInt <;>
    cases graphics : succeeds .vgExit <;>
    simp [CleanedUp, initGameCalls, closeGameCalls, attempt, keyboard, timer, graphics]

/-- A whole `init_game` with no `close_game` after it leaves everything behind. -/
theorem not_cleanedUp_init : ¬ CleanedUp (initGameCalls.map fun call => (call, true)) := by
  simp [CleanedUp, initGameCalls]

/-- An `init_game` that fails leaves nothing behind exactly when it fails before the graphics mode
is set. -/
theorem cleanedUp_init_iff {succeeds : Call → Bool} (fails : (attempt succeeds initGameCalls).1 ≠ 0) :
    CleanedUp (attempt succeeds initGameCalls).2 ↔
      succeeds .timerSetFrequency = false ∨ succeeds .setFrameBuffer = false ∨
        succeeds .setGraphicalMode = false := by
  revert fails
  cases frequency : succeeds .timerSetFrequency <;> cases buffer : succeeds .setFrameBuffer <;>
    cases graphics : succeeds .setGraphicalMode <;> cases keyboard : succeeds .kbSubscribeInt <;>
    cases timer : succeeds .timerSubscribeInt <;>
    simp [CleanedUp, initGameCalls, attempt, frequency, buffer, graphics, keyboard, timer]

/-! ### The main loop -/

/-- **The runs that clean up** are those whose `init_game` fails before the graphics mode is set, and
those with both subscriptions and both unsubscriptions in which `menu_handler` does not fail. -/
theorem cleans_up_iff {succeeds : Call → Bool} {mode : ModeInfo} {csv : Option (List UInt8)}
    {messages : List Receive} {code : Int} {trace : Trace}
    (returns : projMainLoop succeeds mode csv messages = some (code, trace)) :
    CleanedUp trace ↔
      (succeeds .timerSetFrequency = false ∨ succeeds .setFrameBuffer = false ∨
        succeeds .setGraphicalMode = false) ∨
      (succeeds .kbSubscribeInt = true ∧ succeeds .timerSubscribeInt = true ∧
        succeeds .kbUnsubscribeInt = true ∧ succeeds .timerUnsubscribeInt = true ∧
        Runs.Along (step mode) (DrawsMessage mode) (start csv) messages) := by
  have ran := unfailed_run_iff mode (unfailed_menuHandlerLoop (initGame csv)) messages
  rcases first_failing succeeds initGameCalls with all | ⟨before, failing, rest, calls, all, fails⟩
  · have inits := attempt_of_all all
    simp only [initGameCalls, List.forall_mem_cons] at all
    obtain ⟨frequency, buffer, graphics, keyboard, timer, _⟩ := all
    simp only [frequency, buffer, graphics, keyboard, timer, Bool.true_eq_false, false_or, true_and]
    rw [projMainLoop, if_neg (by rw [inits]; exact not_not.mpr rfl)] at returns
    split at returns
    · rename_i result control
      split at returns
      · rename_i failed
        obtain ⟨rfl, rfl⟩ := Prod.mk.inj (Option.some.inj returns)
        rw [inits]
        refine iff_of_false not_cleanedUp_init fun both => failed ?_
        exact ran.mpr both.2.2 result control
      · rename_i zero
        obtain ⟨rfl, rfl⟩ := Prod.mk.inj (Option.some.inj returns)
        have unfailed : Unfailed (run mode (start csv) messages) := by
          intro code returned
          obtain rfl : result = code := Control.returned.inj (control.symm.trans returned)
          exact not_not.mp zero
        rw [inits]
        refine (cleanedUp_close_iff succeeds).trans ⟨fun both => ?_, fun three => ?_⟩
        · exact ⟨both.1, both.2, ran.mp unfailed⟩
        · exact ⟨three.1, three.2.1⟩
    · cases returns
  · have stops : (attempt succeeds initGameCalls).1 ≠ 0 := by
      rw [calls, attempt_append all fails]
      exact one_ne_zero
    rw [projMainLoop, if_pos stops] at returns
    obtain ⟨rfl, rfl⟩ := Prod.mk.inj (Option.some.inj returns)
    rw [cleanedUp_init_iff stops]
    refine ⟨.inl, fun either => either.elim id fun both => ?_⟩
    by_contra none
    simp only [not_or, Bool.not_eq_false] at none
    refine stops (congrArg Prod.fst (attempt_of_all ?_))
    simp only [initGameCalls, List.forall_mem_cons]
    exact ⟨none.1, none.2.1, none.2.2, both.1, both.2.1, fun _ member => absurd member List.not_mem_nil⟩

/-- Everything succeeds and ESC is released in the main menu. -/
theorem cleans_up_iff_escape :
    projMainLoop (fun _ => true) mode14C none [press kbBreakEsc] =
      some (0, (initGameCalls ++ closeGameCalls).map fun call => (call, true)) ∧
    CleanedUp ((initGameCalls ++ closeGameCalls).map fun call => (call, true)) := by
  have returns : projMainLoop (fun _ => true) mode14C none [press kbBreakEsc] =
      some (0, (initGameCalls ++ closeGameCalls).map fun call => (call, true)) := by
    decide
  refine ⟨returns, (cleans_up_iff returns).mpr (.inr ⟨rfl, rfl, rfl, rfl, ?_⟩)⟩
  exact ⟨trivial, trivial⟩

/-- **A subscription that is left behind**: `timer_subscribe_int` fails, `init_game` returns 1, and the
program ends with the keyboard subscribed and the graphics mode set. -/
theorem not_cleanedUp_timer :
    ¬ (∀ (succeeds : Call → Bool) (mode : ModeInfo) (csv : Option (List UInt8))
      (messages : List Receive) (code : Int) (trace : Trace),
      projMainLoop succeeds mode csv messages = some (code, trace) → CleanedUp trace) := by
  intro always
  have cleaned := always (fun call => call ≠ .timerSubscribeInt) mode14C none [] 1
    [(.timerSetFrequency, true), (.setFrameBuffer, true), (.setGraphicalMode, true),
      (.kbSubscribeInt, true), (.timerSubscribeInt, false)] (by decide)
  obtain ⟨result, member⟩ := cleaned.2.2 (by decide)
  simp at member

end SpaceInvaders
