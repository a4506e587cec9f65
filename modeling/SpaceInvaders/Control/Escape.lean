/-
**Where the escape key leads.**

The break code of the escape key ends the loops of `game_state` and `score_state`; both return into
`menu_handler`, whose own loop tests the same variable. So every release that should lead back to the
main menu ends the program.

* `step_exits`: what one message does to the three loop tests;
* `escape_returns_iff`: a run keeps `EscapeLaw` exactly when no release comes in a state that is
  meant to lead back;
* `not_escapeLaw_game`: the release during a game.
-/

import SpaceInvaders.Model.Program

namespace SpaceInvaders

/-- How a message leaves the program, when `scancode` is the last key: the break code of the escape
key ends every loop, and without it only `quit` ends `menu_handler` with 0. -/
structure Exits (quit : Prop) (scancode : UInt8) (program : Program) : Prop where
  kept : program.globals.scancode = scancode
  leaves : scancode = kbBreakEsc → ∃ code, program.control = .returned code
  quits : program.control = .returned 0 → scancode = kbBreakEsc ∨ quit

section Loops

variable {quit : Prop} {globals : Globals} {scancode : UInt8} (same : globals.scancode = scancode)
include same

theorem exits_menuHandlerLoop : Exits quit scancode (menuHandlerLoop globals) := by
  unfold menuHandlerLoop
  by_cases escape : globals.scancode = kbBreakEsc
  · rw [if_pos escape]
    exact ⟨same, fun _ => ⟨0, rfl⟩, fun _ => .inl (same ▸ escape)⟩
  · rw [if_neg escape]
    exact ⟨same, fun is => absurd (same.trans is) escape, fun returned => by cases returned⟩

theorem exits_gameStateLoop : Exits quit scancode (gameStateLoop globals) := by
  unfold gameStateLoop
  by_cases escape : globals.scancode = kbBreakEsc
  · rw [if_pos escape]
    exact exits_menuHandlerLoop same
  · rw [if_neg escape]
    exact ⟨same, fun is => absurd (same.trans is) escape, fun returned => by cases returned⟩

theorem exits_scoreStateLoop : Exits quit scancode (scoreStateLoop globals) := by
  unfold scoreStateLoop
  by_cases escape : globals.scancode = kbBreakEsc
  · rw [if_pos escape]
    exact exits_menuHandlerLoop same
  · rw [if_neg escape]
    exact ⟨same, fun is => absurd (same.trans is) escape, fun returned => by cases returned⟩

/-- A failed drawing call ends the program, with 1. -/
theorem exits_failure : Exits quit scancode ⟨.returned 1, globals⟩ :=
  ⟨same, fun _ => ⟨1, rfl⟩, fun returned => by cases returned⟩

variable (mode : ModeInfo)

theorem exits_startGame : Exits quit scancode (startGame mode globals) := by
  unfold startGame
  split
  · exact exits_failure same
  · exact exits_gameStateLoop same

theorem exits_showScores : Exits quit scancode (showScores mode globals) := by
  unfold showScores
  split
  · exact exits_scoreStateLoop same
  · exact exits_failure same

theorem exits_finishTick (answers : Answers) :
    Exits quit scancode (finishTick mode answers globals) := by
  unfold finishTick
  split
  · exact exits_failure same
  split
  · exact exits_menuHandlerLoop same
  split
  · exact exits_menuHandlerLoop same
  · exact exits_gameStateLoop same

theorem exits_menuTimer :
    Exits (globals.menu.currentState = .exit) scancode (menuTimer mode globals) := by
  simp only [menuTimer]
  split
  · exact exits_startGame (by exact same) mode
  · exact exits_showScores (by exact same) mode
  · rename_i exit
    exact ⟨same, fun _ => ⟨0, rfl⟩, fun _ => .inr exit⟩
  · exact exits_menuHandlerLoop same

end Loops

/-! ### One message -/

/-- The last key after a message. -/
def scancodeAfter (program : Program) : Receive → UInt8
  | .hardware (some ports) _ => kbcIh ports program.globals.scancode
  | _ => program.globals.scancode

/-- Handling a key never chooses `MENU_EXIT`. -/
theorem menuHandleInput_exit {scancode : UInt8} {menu : Menu}
    (exit : (menuHandleInput scancode menu).currentState = .exit) : menu.currentState = .exit := by
  unfold menuHandleInput at exit
  split at exit
  · rename_i main
    split at exit
    · exact exit
    split at exit
    · exact exit
    split at exit
    · cases option : menu.currentOption <;> rw [option] at exit <;>
        simp [MenuOption.target, main] at exit
    · exact exit
  split at exit
  · split at exit
    · cases exit
    · exact exit
  · split at exit
    · cases exit
    · exact exit

theorem Exits.imp {quit quit' : Prop} {scancode : UInt8} {program : Program}
    (exits : Exits quit scancode program) (weaker : quit → quit') : Exits quit' scancode program :=
  ⟨exits.kept, exits.leaves, fun returned => (exits.quits returned).imp_right weaker⟩

/-- **One message** to a waiting program. -/
theorem step_exits (mode : ModeInfo) {program : Program} (receive : Receive)
    (waits : ∀ code, program.control ≠ .returned code) :
    Exits (program.globals.menu.currentState = .exit) (scancodeAfter program receive)
      (step mode program receive) := by
  obtain ⟨control, globals⟩ := program
  cases control with
  | menuHandler =>
    cases receive with
    | failed => exact exits_menuHandlerLoop rfl
    | ignored => exact exits_menuHandlerLoop rfl
    | hardware keyboard timer =>
      cases keyboard with
      | none =>
        cases timer with
        | none => exact exits_menuHandlerLoop rfl
        | some answers => exact exits_menuTimer rfl mode
      | some ports =>
        cases timer with
        | none => exact @exits_menuHandlerLoop _ (menuKeyboard ports globals) _ rfl
        | some answers =>
          exact (@exits_menuTimer (menuKeyboard ports globals) _ rfl mode).imp menuHandleInput_exit
  | gameState =>
    cases receive with
    | failed => exact exits_gameStateLoop rfl
    | ignored => exact exits_gameStateLoop rfl
    | hardware keyboard timer =>
      have input : (gameInput mode keyboard globals).scancode =
          scancodeAfter ⟨.gameState, globals⟩ (.hardware keyboard timer) := by
        cases keyboard with
        | none => rfl
        | some ports =>
          show (gameKeyboard mode ports globals).scancode = _
          simp only [gameKeyboard]
          split <;> rfl
      cases timer with
      | none => exact exits_gameStateLoop input
      | some answers =>
        exact @exits_finishTick _ (gameTick mode answers (gameInput mode keyboard globals)) _ input
          mode answers
  | scoreState =>
    cases receive with
    | failed => exact exits_scoreStateLoop rfl
    | ignored => exact exits_scoreStateLoop rfl
    | hardware keyboard timer =>
      cases keyboard with
      | none => exact exits_scoreStateLoop rfl
      | some ports =>
        show Exits _ (kbcIh ports globals.scancode) (if _ then _ else _)
        split
        · exact exits_menuHandlerLoop rfl
        · exact exits_scoreStateLoop rfl
  | returned code => exact absurd rfl (waits code)

/-- The program has returned, or the last key lets its loop go on. -/
def PassedTest (program : Program) : Prop :=
  (∃ code, program.control = .returned code) ∨ program.globals.scancode ≠ kbBreakEsc

theorem Exits.passedTest {quit : Prop} {scancode : UInt8} {program : Program}
    (exits : Exits quit scancode program) : PassedTest program := by
  by_cases escape : scancode = kbBreakEsc
  · exact .inl (exits.leaves escape)
  · exact .inr (exits.kept ▸ escape)

/-- In every reachable state a waiting program has passed its loop's test. -/
theorem passedTest_of_reachable {mode : ModeInfo} {program : Program}
    (reached : Reachable mode program) : PassedTest program := by
  refine reached.induction (fun csv => ?_) fun program receive before => ?_
  · exact (@exits_menuHandlerLoop False (initGame csv) _ rfl).passedTest
  · by_cases waits : ∀ code, program.control ≠ .returned code
    · exact (step_exits mode receive waits).passedTest
    · -- a program that has returned stays as it is
      obtain ⟨control, globals⟩ := program
      simp only [not_forall, not_not] at waits
      obtain ⟨code, rfl⟩ := waits
      exact before

/-! ### The law of the escape key -/

/-- A message delivers the break code of the escape key to a waiting program. -/
def ReleasesEsc (program : Program) (receive : Receive) : Prop :=
  (∀ code, program.control ≠ .returned code) ∧
    ∃ ports timer, receive = .hardware (some ports) timer ∧
      kbcIh ports program.globals.scancode = kbBreakEsc

/-- The menu states the escape key is meant to lead back from: a game, the scores, a game over. -/
def LeadsBack (state : MenuState) : Prop := state = .start ∨ state = .scores ∨ state = .gameOver

/-- What the screens promise of one message: a release of the escape key in a game, in the scores or
after a game over leads back to the main menu, and the program ends with 0 only on such a release in
the main menu, or after Quit. -/
def EscapeLaw (mode : ModeInfo) (program : Program) (receive : Receive) : Prop :=
  (ReleasesEsc program receive → LeadsBack program.globals.menu.currentState →
    (step mode program receive).control = .menuHandler ∧
      (step mode program receive).globals.menu.currentState = .main) ∧
  (program.control ≠ .returned 0 → (step mode program receive).control = .returned 0 →
    (ReleasesEsc program receive ∧ program.globals.menu.currentState = .main) ∨
      program.globals.menu.currentState = .quit ∨ program.globals.menu.currentState = .exit)

/-- **Every release of the escape key ends the program.** -/
theorem returned_of_releasesEsc (mode : ModeInfo) {program : Program} {receive : Receive}
    (releases : ReleasesEsc program receive) :
    ∃ code, (step mode program receive).control = .returned code := by
  obtain ⟨waits, ports, timer, rfl, escape⟩ := releases
  exact (step_exits mode _ waits).leaves escape

/-- A message keeps the law exactly when it is no release that should lead back. -/
theorem escapeLaw_iff {mode : ModeInfo} {program : Program} (reached : Reachable mode program)
    (receive : Receive) :
    EscapeLaw mode program receive ↔
      ¬ (ReleasesEsc program receive ∧ LeadsBack program.globals.menu.currentState) := by
  constructor
  · rintro ⟨back, _⟩ ⟨releases, leadsBack⟩
    obtain ⟨code, returned⟩ := returned_of_releasesEsc mode releases
    rw [(back releases leadsBack).1] at returned
    cases returned
  · intro never
    refine ⟨fun releases leadsBack => absurd ⟨releases, leadsBack⟩ never, fun running returned => ?_⟩
    have waits : ∀ code, program.control ≠ .returned code := by
      intro code same
      obtain ⟨control, globals⟩ := program
      cases same
      exact running returned
    rcases (step_exits mode receive waits).quits returned with escape | exit
    · -- the code is new: the loop's test was passed before
      have releases : ReleasesEsc program receive := by
        have before : program.globals.scancode ≠ kbBreakEsc := by
          rcases passedTest_of_reachable reached with ⟨code, same⟩ | passed
          · exact absurd same (waits code)
          · exact passed
        refine ⟨waits, ?_⟩
        cases receive with
        | failed => exact absurd escape before
        | ignored => exact absurd escape before
        | hardware keyboard timer =>
          cases keyboard with
          | none => exact absurd escape before
          | some ports => exact ⟨ports, timer, rfl, escape⟩
      cases state : program.globals.menu.currentState with
      | main => exact .inl ⟨releases, rfl⟩
      | start => exact absurd ⟨releases, .inl state⟩ never
      | scores => exact absurd ⟨releases, .inr (.inl state)⟩ never
      | gameOver => exact absurd ⟨releases, .inr (.inr state)⟩ never
      | quit => exact .inr (.inl rfl)
      | exit => exact .inr (.inr rfl)
    · exact .inr (.inr exit)

/-- **When the escape key leads back.** Over a whole run the law holds at every message exactly when no
release comes while a game runs, the scores are shown, or a game is over. -/
theorem escape_returns_iff (mode : ModeInfo) (csv : Option (List UInt8)) (messages : List Receive) :
    Runs.Along (step mode) (EscapeLaw mode) (start csv) messages ↔
      Runs.Along (step mode) (fun program receive =>
        ¬ (ReleasesEsc program receive ∧ LeadsBack program.globals.menu.currentState))
        (start csv) messages :=
  @Runs.along_congr _ _ (step mode) (Reachable mode) _ _ (fun _ receive reached => reached.step receive)
    (fun _ receive reached => escapeLaw_iff reached receive) _ (reachable_start mode csv) _

/-- **The escape key in a game** ends the program: Enter, a tick that starts the game, the key. -/
theorem not_escapeLaw_game :
    ¬ Runs.Along (step mode14C) (EscapeLaw mode14C) (start none)
      [press kbEnter, timerTick 0, press kbBreakEsc] := by
  rintro ⟨_, _, ⟨back, _⟩, _⟩
  have running : (run mode14C (start none) [press kbEnter, timerTick 0]).control = .gameState := by
    decide
  have releases : ReleasesEsc (run mode14C (start none) [press kbEnter, timerTick 0])
      (press kbBreakEsc) := by
    refine ⟨fun code => ?_, _, _, rfl, by decide⟩
    rw [running]
    exact fun same => by cases same
  have ends := (back releases (.inl (by decide))).1
  exact absurd ends (by decide)

end SpaceInvaders
