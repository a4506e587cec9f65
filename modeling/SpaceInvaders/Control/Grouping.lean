/-
**How notifications are grouped.**

The kernel may bring a keyboard and a timer interrupt in one message or in two. The loops handle the
keyboard first, so one message should do what the two would do. It does, unless the key ends the loop: the
second of two messages then meets the loop outside, while the timer part of the one message is still handled
inside.

* `Cuts`: the key of a message ends the loop that handles it;
* `step_apart_iff`: one message does what its two parts do exactly when its key does not cut it;
* `grouping_iff`: over whole runs.
-/

import SpaceInvaders.Game.Rule

namespace SpaceInvaders

/-- A notification with both bits as two notifications, the keyboard first. -/
def Receive.apart : Receive → List Receive
  | .hardware (some ports) (some answers) =>
    [.hardware (some ports) none, .hardware none (some answers)]
  | receive => [receive]

/-- Behind this key the loop that handles the message is left for another one, or for good: ESC leaves the
menu and the game, ENTER the score screen. -/
def Control.leftBy (control : Control) (code : UInt8) : Prop :=
  match control with
  | .menuHandler => code = kbBreakEsc
  | .gameState => code = kbBreakEsc
  | .scoreState => code = kbEnter
  | .returned _ => False

/-- A notification with both bits whose key ends the loop. -/
def Cuts (program : Program) : Receive → Prop
  | .hardware (some ports) (some _) => program.control.leftBy (kbcIh ports program.globals.scancode)
  | _ => False

/-! ### The clock -/

/-- The timer branch of the menu counts its tick, whatever it leads to. -/
theorem menuTimer_timerCounter (mode : ModeInfo) (globals : Globals) :
    (menuTimer mode globals).globals.timerCounter = globals.timerCounter + 1 := by
  unfold menuTimer
  simp only
  split
  · unfold startGame beginGame
    split
    · rfl
    · exact gameStateLoop_timerCounter _
  · unfold showScores
    split
    · unfold scoreStateLoop leaveScores
      split
      · rw [menuHandlerLoop_globals]
      · rfl
    · rfl
  · rfl
  · rw [menuHandlerLoop_globals]

/-- So does the timer branch of the game. -/
theorem gameMessage_timerCounter (mode : ModeInfo) (keyboard : Option Ports) (answers : Answers)
    (globals : Globals) :
    (gameMessage mode keyboard (some answers) globals).globals.timerCounter =
      globals.timerCounter + 1 := by
  show (finishTick mode answers (gameTick mode answers (gameInput mode keyboard globals))).globals.timerCounter
    = _
  rw [finishTick_timerCounter]
  show (gameInput mode keyboard globals).timerCounter + 1 = _
  rw [gameInput_timerCounter]

/-! ### One message -/

theorem gameKeyboard_scancode (mode : ModeInfo) (ports : Ports) (globals : Globals) :
    (gameKeyboard mode ports globals).scancode = kbcIh ports globals.scancode := by
  unfold gameKeyboard
  simp only
  split <;> rfl

/-- The two parts in `menu_handler`. -/
theorem menu_apart_iff (mode : ModeInfo) (ports : Ports) (answers : Answers) (globals : Globals) :
    run mode ⟨.menuHandler, globals⟩ [.hardware (some ports) none, .hardware none (some answers)] =
        step mode ⟨.menuHandler, globals⟩ (.hardware (some ports) (some answers)) ↔
      ¬ kbcIh ports globals.scancode = kbBreakEsc := by
  show step mode (menuHandlerLoop (menuKeyboard ports globals)) (.hardware none (some answers)) =
    menuTimer mode (menuKeyboard ports globals) ↔ _
  by_cases left : kbcIh ports globals.scancode = kbBreakEsc
  · have outside : menuHandlerLoop (menuKeyboard ports globals) =
        ⟨.returned 0, menuKeyboard ports globals⟩ := if_pos left
    refine ⟨fun same => ?_, fun stays => absurd left stays⟩
    rw [outside] at same
    have clocks := congrArg (fun program => program.globals.timerCounter) same
    rw [menuTimer_timerCounter] at clocks
    exact absurd clocks (Nat.ne_of_lt (Nat.lt_succ_self _))
  · have inside : menuHandlerLoop (menuKeyboard ports globals) =
        ⟨.menuHandler, menuKeyboard ports globals⟩ := if_neg left
    rw [inside]
    exact ⟨fun _ => left, fun _ => rfl⟩

/-- The two parts in `game_state`. -/
theorem game_apart_iff (mode : ModeInfo) (ports : Ports) (answers : Answers) (globals : Globals) :
    run mode ⟨.gameState, globals⟩ [.hardware (some ports) none, .hardware none (some answers)] =
        step mode ⟨.gameState, globals⟩ (.hardware (some ports) (some answers)) ↔
      ¬ kbcIh ports globals.scancode = kbBreakEsc := by
  show step mode (gameStateLoop (gameKeyboard mode ports globals)) (.hardware none (some answers)) =
    gameMessage mode (some ports) (some answers) globals ↔ _
  have code := gameKeyboard_scancode mode ports globals
  by_cases left : kbcIh ports globals.scancode = kbBreakEsc
  · have outside : ∃ after, gameStateLoop (gameKeyboard mode ports globals) = ⟨.returned 0, after⟩ ∧
        after.timerCounter = globals.timerCounter := by
      refine ⟨_, (if_pos (code.trans left)).trans (if_pos (code.trans left)), ?_⟩
      exact gameInput_timerCounter mode (some ports) globals
    obtain ⟨after, outside, clock⟩ := outside
    refine ⟨fun same => ?_, fun stays => absurd left stays⟩
    rw [outside] at same
    have clocks := congrArg (fun program => program.globals.timerCounter) same
    rw [gameMessage_timerCounter] at clocks
    exact absurd (clock.symm.trans clocks) (Nat.ne_of_lt (Nat.lt_succ_self _))
  · have inside : gameStateLoop (gameKeyboard mode ports globals) =
        ⟨.gameState, gameKeyboard mode ports globals⟩ := if_neg (code ▸ left)
    rw [inside]
    exact ⟨fun _ => left, fun _ => rfl⟩

/-- The two parts in `score_state`, which has no timer branch. -/
theorem score_apart_iff (mode : ModeInfo) (ports : Ports) (answers : Answers) (globals : Globals) :
    run mode ⟨.scoreState, globals⟩ [.hardware (some ports) none, .hardware none (some answers)] =
        step mode ⟨.scoreState, globals⟩ (.hardware (some ports) (some answers)) ↔
      ¬ kbcIh ports globals.scancode = kbEnter := by
  show step mode (scoreMessage (some ports) globals) (.hardware none (some answers)) =
    scoreMessage (some ports) globals ↔ _
  by_cases enter : kbcIh ports globals.scancode = kbEnter
  · have stays : ¬ kbcIh ports globals.scancode = kbBreakEsc := by
      rw [enter]
      decide
    have outside : ∃ after, scoreMessage (some ports) globals = ⟨.menuHandler, after⟩ :=
      ⟨_, (if_pos (.inl enter)).trans (if_neg stays)⟩
    obtain ⟨after, outside⟩ := outside
    refine ⟨fun same => ?_, fun other => absurd enter other⟩
    rw [outside] at same
    have clocks := congrArg (fun program => program.globals.timerCounter) same
    change (menuTimer mode after).globals.timerCounter = after.timerCounter at clocks
    rw [menuTimer_timerCounter] at clocks
    exact absurd clocks.symm (Nat.ne_of_lt (Nat.lt_succ_self _))
  · refine ⟨fun _ => enter, fun _ => ?_⟩
    by_cases left : kbcIh ports globals.scancode = kbBreakEsc
    · have outside : ∃ after, scoreMessage (some ports) globals = ⟨.returned 0, after⟩ :=
        ⟨_, (if_pos (.inr left)).trans (if_pos left)⟩
      obtain ⟨after, outside⟩ := outside
      rw [outside]
      rfl
    · have inside : scoreMessage (some ports) globals =
          ⟨.scoreState, { globals with scancode := kbcIh ports globals.scancode }⟩ :=
        (if_neg fun either => either.elim enter left).trans (if_neg left)
      rw [inside]
      exact if_neg left

/-- **One message** does what its parts do exactly when its key does not end the loop. -/
theorem step_apart_iff (mode : ModeInfo) (program : Program) (receive : Receive) :
    run mode program receive.apart = step mode program receive ↔ ¬ Cuts program receive := by
  obtain ⟨control, globals⟩ := program
  cases receive with
  | failed => exact ⟨fun _ => id, fun _ => rfl⟩
  | ignored => exact ⟨fun _ => id, fun _ => rfl⟩
  | hardware keyboard timer =>
    cases keyboard with
    | none => exact ⟨fun _ => id, fun _ => rfl⟩
    | some ports =>
      cases timer with
      | none => exact ⟨fun _ => id, fun _ => rfl⟩
      | some answers =>
        cases control with
        | menuHandler => exact menu_apart_iff mode ports answers globals
        | gameState => exact game_apart_iff mode ports answers globals
        | scoreState => exact score_apart_iff mode ports answers globals
        | returned code => exact ⟨fun _ => id, fun _ => rfl⟩

/-! ### Runs -/

/-- No combined notification of the run brings the key that ends its loop. -/
def Uncut (mode : ModeInfo) (csv : Option (List UInt8)) (messages : List Receive) : Prop :=
  Runs.Along (step mode) (fun program receive => ¬ Cuts program receive) (start csv) messages

/-- Taking the notifications apart, message by message. -/
theorem uncut_iff_parts (mode : ModeInfo) (csv : Option (List UInt8)) (messages : List Receive) :
    Uncut mode csv messages ↔ Runs.Along (step mode)
      (fun program receive => run mode program receive.apart = step mode program receive)
      (start csv) messages := by
  refine @Runs.along_congr _ _ (step mode) (fun _ => True) _ _ (fun _ _ _ => trivial) ?_ _ trivial _
  exact fun program receive _ => (step_apart_iff mode program receive).symm

/-- Two uncut runs of the same interrupts, grouped in different ways, end alike. -/
theorem run_of_same_parts {mode : ModeInfo} {csv : Option (List UInt8)} {messages messages' : List Receive}
    (parts : messages.flatMap Receive.apart = messages'.flatMap Receive.apart)
    (uncut : Uncut mode csv messages) (uncut' : Uncut mode csv messages') :
    run mode (start csv) messages = run mode (start csv) messages' := by
  have apart {messages : List Receive} (uncut : Uncut mode csv messages) :
      run mode (start csv) (messages.flatMap Receive.apart) = run mode (start csv) messages := by
    have whole := Runs.along_expand_iff.mp ((uncut_iff_parts mode csv messages).mp uncut)
      messages.length le_rfl
    rwa [List.take_length] at whole
  rw [← apart uncut, parts, apart uncut']

/-- **How the kernel groups the interrupts does not matter** exactly as long as no combined notification
brings the key that ends its loop: then, and only then, the run with every notification taken apart is in
the same state behind every message. -/
theorem grouping_iff (mode : ModeInfo) (csv : Option (List UInt8)) (messages : List Receive) :
    (∀ taken ≤ messages.length,
      run mode (start csv) ((messages.take taken).flatMap Receive.apart) =
        run mode (start csv) (messages.take taken)) ↔ Uncut mode csv messages := by
  rw [uncut_iff_parts]
  exact Runs.along_expand_iff.symm

end SpaceInvaders
