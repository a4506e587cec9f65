/-
**The proof rule for the playing field.**

Over a whole run of the program the arena changes in three ways only: a new game prepares it, a key
acts on the ship, a timer tick moves everything. `ArenaInvariant mode Rest Inv` lists what has to be
shown of each: `Inv timer` is the invariant while `game_state` waits for a message, `Rest` what is left
of it between games, where the timer goes on and the arena stands still.

`ArenaInvariant.reachable`: then both hold in every reachable state of the program.
-/

import SpaceInvaders.Model.Program

namespace SpaceInvaders

/-! ### The keyboard part of a message -/

@[simp] theorem gameInput_timerCounter (mode : ModeInfo) (keyboard : Option Ports)
    (globals : Globals) : (gameInput mode keyboard globals).timerCounter = globals.timerCounter := by
  cases keyboard with
  | none => rfl
  | some ports =>
    show (gameKeyboard mode ports globals).timerCounter = _
    simp only [gameKeyboard]
    split <;> rfl

/-- A key acts on the arena through `ship_action`, or not at all. -/
theorem gameInput_arena (mode : ModeInfo) (keyboard : Option Ports) (globals : Globals) :
    (gameInput mode keyboard globals).arena = globals.arena ∨
      ∃ scancode, (gameInput mode keyboard globals).arena = shipAction mode scancode globals.arena := by
  cases keyboard with
  | none => exact .inl rfl
  | some ports =>
    show (gameKeyboard mode ports globals).arena = _ ∨ _
    by_cases isBreak : kbcIh ports globals.scancode &&& kbBreakCode ≠ 0
    · exact .inl (by rw [gameKeyboard, if_pos isBreak])
    · refine .inr ⟨kbcIh ports globals.scancode, ?_⟩
      show (gameKeyboard mode ports globals).arena = _
      rw [gameKeyboard, if_neg isBreak]

/-- A key writes the ship, its bullets and the fire delay only. -/
theorem gameInput_arena_eq (mode : ModeInfo) (keyboard : Option Ports) (globals : Globals) :
    (gameInput mode keyboard globals).arena =
      { globals.arena with
        x := (gameInput mode keyboard globals).arena.x
        bullets := (gameInput mode keyboard globals).arena.bullets
        fireDelayCounter := (gameInput mode keyboard globals).arena.fireDelayCounter } := by
  rcases gameInput_arena mode keyboard globals with same | ⟨scancode, acted⟩
  · rw [same]
  · rw [acted]
    exact shipAction_eq mode scancode globals.arena

/-- A key counts a bullet, or leaves the score alone. -/
theorem gameInput_score (mode : ModeInfo) (keyboard : Option Ports) (globals : Globals) :
    (gameInput mode keyboard globals).score = globals.score ∨
      (gameInput mode keyboard globals).score = scoreAddBullet globals.score := by
  cases keyboard with
  | none => exact .inl rfl
  | some ports =>
    show (gameKeyboard mode ports globals).score = _ ∨ (gameKeyboard mode ports globals).score = _
    unfold gameKeyboard
    simp only
    split
    · exact .inl rfl
    by_cases launches : launchesBullet (kbcIh ports globals.scancode) globals.arena = true
    · exact .inr (if_pos launches)
    · exact .inl (if_neg launches)

/-- A tick of a game that counts sets the time of its score. -/
theorem gameTick_score (mode : ModeInfo) (answers : Answers) {globals : Globals}
    (counting : globals.score.gameActive = true) :
    (gameTick mode answers globals).score =
      { globals.score with
        currentScore :=
          { globals.score.currentScore with
            gameTimeSeconds :=
              (((globals.timerCounter + 1 : Nat) : Int) - globals.score.gameStartTime).tdiv 60 } } :=
  if_pos counting

/-- The variables where a timer tick of a game begins: a reachable `game_state` has handled the
keyboard part of a message. -/
def AtTick (mode : ModeInfo) (globals : Globals) : Prop :=
  ∃ program keyboard, Reachable mode program ∧ program.control = .gameState ∧
    globals = gameInput mode keyboard program.globals

/-- A state of the game loop is where a tick begins, when the message has no keyboard part. -/
theorem AtTick.of_reachable {mode : ModeInfo} {program : Program} (reached : Reachable mode program)
    (running : program.control = .gameState) : AtTick mode program.globals :=
  ⟨program, none, reached, running, rfl⟩

/-- The variables of the first game of a program without a score file. -/
def firstGame : Globals := (run mode14C (start none) [press kbEnter, timerTick 0]).globals

theorem atTick_firstGame : AtTick mode14C firstGame :=
  .of_reachable ((reachable_start mode14C none).run _) (by decide)

/-! ### Messages inside a game -/

@[simp] theorem menuHandlerLoop_globals (globals : Globals) :
    (menuHandlerLoop globals).globals = globals := by
  unfold menuHandlerLoop
  split <;> rfl

theorem menuHandlerLoop_control (globals : Globals) :
    (menuHandlerLoop globals).control = .menuHandler ∨
      (menuHandlerLoop globals).control = .returned 0 := by
  unfold menuHandlerLoop
  split
  · exact .inr rfl
  · exact .inl rfl

theorem menuHandlerLoop_ne_gameState (globals : Globals) :
    (menuHandlerLoop globals).control ≠ .gameState := by
  rcases menuHandlerLoop_control globals with waits | returned
  · rw [waits]
    exact fun same => by cases same
  · rw [returned]
    exact fun same => by cases same

theorem scoreStateLoop_ne_gameState (globals : Globals) :
    (scoreStateLoop globals).control ≠ .gameState := by
  unfold scoreStateLoop leaveScores
  split
  · exact menuHandlerLoop_ne_gameState _
  · exact fun same => by cases same

theorem showScores_ne_gameState (mode : ModeInfo) (globals : Globals) :
    (showScores mode globals).control ≠ .gameState := by
  unfold showScores
  split
  · exact scoreStateLoop_ne_gameState _
  · exact fun same => by cases same

/-- A running game was running before the message, or `menu_handler` has started it. -/
theorem control_before {mode : ModeInfo} {program : Program} {receive : Receive}
    (running : (step mode program receive).control = .gameState) :
    program.control = .gameState ∨ program.control = .menuHandler := by
  obtain ⟨control, globals⟩ := program
  cases control with
  | gameState => exact .inl rfl
  | menuHandler => exact .inr rfl
  | returned code => cases running
  | scoreState =>
    refine absurd running ?_
    cases receive with
    | failed => exact scoreStateLoop_ne_gameState _
    | ignored => exact scoreStateLoop_ne_gameState _
    | hardware keyboard timer =>
      cases keyboard with
      | none => exact scoreStateLoop_ne_gameState _
      | some ports =>
        show (if _ then leaveScores _ else scoreStateLoop _ : Program).control ≠ _
        split
        · exact menuHandlerLoop_ne_gameState _
        · exact scoreStateLoop_ne_gameState _

@[simp] theorem gameStateLoop_arena (globals : Globals) :
    (gameStateLoop globals).globals.arena = globals.arena := by
  unfold gameStateLoop
  split
  · rw [menuHandlerLoop_globals]
  · rfl

@[simp] theorem gameStateLoop_timerCounter (globals : Globals) :
    (gameStateLoop globals).globals.timerCounter = globals.timerCounter := by
  unfold gameStateLoop
  split
  · rw [menuHandlerLoop_globals]
  · rfl

@[simp] theorem finishTick_arena (mode : ModeInfo) (answers : Answers) (globals : Globals) :
    (finishTick mode answers globals).globals.arena = globals.arena := by
  unfold finishTick loseGame winGame
  split
  · rfl
  split
  · rw [menuHandlerLoop_globals]
  split
  · rw [menuHandlerLoop_globals]
  · rw [gameStateLoop_arena]

@[simp] theorem finishTick_timerCounter (mode : ModeInfo) (answers : Answers) (globals : Globals) :
    (finishTick mode answers globals).globals.timerCounter = globals.timerCounter := by
  unfold finishTick loseGame winGame
  split
  · rfl
  split
  · rw [menuHandlerLoop_globals]
  split
  · rw [menuHandlerLoop_globals]
  · rw [gameStateLoop_timerCounter]

/-- The timer ticks a message brings. -/
def Receive.ticks : Receive → Nat
  | .hardware _ (some _) => 1
  | _ => 0

/-- The arena after a message to a running game. -/
def messageArena (mode : ModeInfo) (globals : Globals) : Receive → Arena
  | .hardware keyboard (some answers) =>
    (tickArena mode (globals.timerCounter + 1) answers.enemyRoll
      (gameInput mode keyboard globals).arena false).1
  | .hardware keyboard none => (gameInput mode keyboard globals).arena
  | _ => globals.arena

/-- A message to a running game acts on the arena and on the tick counter by `messageArena` and
`ticks`, also when it ends the game. -/
theorem step_of_running (mode : ModeInfo) {program : Program} (running : program.control = .gameState)
    (receive : Receive) :
    (step mode program receive).globals.arena = messageArena mode program.globals receive ∧
      (step mode program receive).globals.timerCounter =
        program.globals.timerCounter + receive.ticks := by
  obtain ⟨control, globals⟩ := program
  cases running
  cases receive with
  | failed => exact ⟨gameStateLoop_arena globals, gameStateLoop_timerCounter globals⟩
  | ignored => exact ⟨gameStateLoop_arena globals, gameStateLoop_timerCounter globals⟩
  | hardware keyboard timer =>
    cases timer with
    | none =>
      refine ⟨gameStateLoop_arena _, (gameStateLoop_timerCounter _).trans ?_⟩
      exact gameInput_timerCounter mode keyboard globals
    | some answers =>
      refine ⟨(finishTick_arena _ _ _).trans ?_, (finishTick_timerCounter _ _ _).trans ?_⟩
      · show (tickArena mode ((gameInput mode keyboard globals).timerCounter + 1) _ _ false).1 = _
        rw [gameInput_timerCounter]
        rfl
      · show (gameInput mode keyboard globals).timerCounter + 1 = globals.timerCounter + 1
        rw [gameInput_timerCounter]

/-- The variables after a message to a running game that the message does not end. -/
def messageGlobals (mode : ModeInfo) (globals : Globals) : Receive → Globals
  | .hardware keyboard (some answers) => gameTick mode answers (gameInput mode keyboard globals)
  | .hardware keyboard none => gameInput mode keyboard globals
  | _ => globals

theorem gameStateLoop_goesOn {globals : Globals}
    (goesOn : (gameStateLoop globals).control = .gameState) :
    gameStateLoop globals = ⟨.gameState, globals⟩ := by
  unfold gameStateLoop at goesOn ⊢
  split at goesOn
  · exact absurd goesOn (menuHandlerLoop_ne_gameState _)
  · rename_i other
    rw [if_neg other]

theorem finishTick_goesOn {mode : ModeInfo} {answers : Answers} {globals : Globals}
    (goesOn : (finishTick mode answers globals).control = .gameState) :
    drawsFrame mode globals.arena = true ∧ globals.playerLost = false ∧
      countActiveEnemies globals.arena ≠ 0 ∧
      finishTick mode answers globals = ⟨.gameState, globals⟩ := by
  unfold finishTick at goesOn ⊢
  by_cases drawn : drawsFrame mode globals.arena = true
  · rw [if_neg (not_not.mpr drawn)] at goesOn ⊢
    by_cases lost : globals.playerLost = true
    · rw [if_pos lost] at goesOn
      exact absurd goesOn (menuHandlerLoop_ne_gameState _)
    rw [if_neg lost] at goesOn ⊢
    by_cases won : countActiveEnemies globals.arena = 0
    · rw [if_pos won] at goesOn
      exact absurd goesOn (menuHandlerLoop_ne_gameState _)
    rw [if_neg won] at goesOn ⊢
    exact ⟨drawn, by simpa using lost, won, gameStateLoop_goesOn goesOn⟩
  · rw [if_pos drawn] at goesOn
    cases goesOn

/-- A game that a message does not end goes on from `messageGlobals`. -/
theorem step_goesOn {mode : ModeInfo} {program : Program} (running : program.control = .gameState)
    {receive : Receive} (goesOn : (step mode program receive).control = .gameState) :
    step mode program receive = ⟨.gameState, messageGlobals mode program.globals receive⟩ := by
  obtain ⟨control, globals⟩ := program
  cases running
  cases receive with
  | failed => exact gameStateLoop_goesOn goesOn
  | ignored => exact gameStateLoop_goesOn goesOn
  | hardware keyboard timer =>
    cases timer with
    | none => exact gameStateLoop_goesOn goesOn
    | some answers => exact (finishTick_goesOn goesOn).2.2.2

@[simp] theorem scoreStateLoop_arena (globals : Globals) :
    (scoreStateLoop globals).globals.arena = globals.arena := by
  unfold scoreStateLoop leaveScores
  split
  · rw [menuHandlerLoop_globals]
  · rfl

theorem menuTimer_arena (mode : ModeInfo) (globals : Globals) :
    (menuTimer mode globals).globals.arena = globals.arena ∨
      (menuTimer mode globals).globals.arena = startArena mode globals.arena := by
  simp only [menuTimer]
  split
  · unfold startGame beginGame
    split
    · exact .inl rfl
    · exact .inr (gameStateLoop_arena _)
  · unfold showScores
    split
    · exact .inl (scoreStateLoop_arena _)
    · exact .inl rfl
  · exact .inl rfl
  · exact .inl (by rw [menuHandlerLoop_globals])

/-- **What a message does to the arena**: outside a game nothing, or the start of one; in a game
`messageArena`. -/
theorem step_arena (mode : ModeInfo) (program : Program) (receive : Receive) :
    (program.control ≠ .gameState ∧
      ((step mode program receive).globals.arena = program.globals.arena ∨
        (step mode program receive).globals.arena = startArena mode program.globals.arena)) ∨
    (program.control = .gameState ∧
      (step mode program receive).globals.arena = messageArena mode program.globals receive) := by
  by_cases running : program.control = .gameState
  · exact .inr ⟨running, (step_of_running mode running receive).1⟩
  refine .inl ⟨running, ?_⟩
  obtain ⟨control, globals⟩ := program
  cases control with
  | gameState => exact absurd rfl running
  | returned code => exact .inl rfl
  | menuHandler =>
    have quiet (globals : Globals) : (menuHandlerLoop globals).globals.arena = globals.arena := by
      rw [menuHandlerLoop_globals]
    cases receive with
    | failed => exact .inl (quiet globals)
    | ignored => exact .inl (quiet globals)
    | hardware keyboard timer =>
      have input : (keyboard.elim globals fun ports => menuKeyboard ports globals).arena =
          globals.arena := by
        cases keyboard <;> rfl
      cases timer with
      | none => exact .inl ((quiet _).trans input)
      | some answers =>
        have acts := menuTimer_arena mode (keyboard.elim globals fun ports => menuKeyboard ports globals)
        rwa [input] at acts
  | scoreState =>
    refine .inl ?_
    cases receive with
    | failed => exact scoreStateLoop_arena globals
    | ignored => exact scoreStateLoop_arena globals
    | hardware keyboard timer =>
      cases keyboard with
      | none => exact scoreStateLoop_arena globals
      | some ports =>
        show (if _ then leaveScores _ else scoreStateLoop _ : Program).globals.arena = _
        split
        · unfold leaveScores
          rw [menuHandlerLoop_globals]
        · exact scoreStateLoop_arena _

/-- The messages all reach the program while it runs a game. -/
def Plays (mode : ModeInfo) (program : Program) (messages : List Receive) : Prop :=
  Runs.Along (step mode) (fun program _ => program.control = .gameState) program messages

/-- The program has just started a game: one message has led it from `menu_handler` into
`game_state`. -/
def GameStarts (mode : ModeInfo) (program : Program) : Prop :=
  ∃ before receive, Reachable mode before ∧ before.control = .menuHandler ∧
    program = step mode before receive ∧ program.control = .gameState

theorem GameStarts.reachable {mode : ModeInfo} {program : Program} (starts : GameStarts mode program) :
    Reachable mode program := by
  obtain ⟨before, receive, reached, _, rfl, _⟩ := starts
  exact reached.step receive

/-- The keyboard part of a notification in `menu_handler`. -/
def menuInput (keyboard : Option Ports) (globals : Globals) : Globals :=
  keyboard.elim globals fun ports => menuKeyboard ports globals

/-- The variables at the first test of a game's loop. -/
def startedGlobals (mode : ModeInfo) (globals : Globals) : Globals :=
  { globals with
    arena := startArena mode globals.arena
    playerLost := false
    playerWin := false
    score := scoreInit globals.timerCounter globals.score }

/-- A message that starts a game is a timer notification in the state `MENU_START`. -/
theorem step_starts {mode : ModeInfo} {program : Program} {receive : Receive}
    (waits : program.control = .menuHandler)
    (running : (step mode program receive).control = .gameState) :
    ∃ keyboard answers, receive = .hardware keyboard (some answers) ∧
      (menuInput keyboard program.globals).menu.currentState = .start ∧
      step mode program receive =
        ⟨.gameState, startedGlobals mode
          { menuInput keyboard program.globals with
            timerCounter := (menuInput keyboard program.globals).timerCounter + 1 }⟩ := by
  obtain ⟨control, globals⟩ := program
  cases waits
  cases receive with
  | failed => exact absurd running (menuHandlerLoop_ne_gameState _)
  | ignored => exact absurd running (menuHandlerLoop_ne_gameState _)
  | hardware keyboard timer =>
    cases timer with
    | none => exact absurd running (menuHandlerLoop_ne_gameState _)
    | some answers =>
      refine ⟨keyboard, answers, rfl, ?_⟩
      have startsGame (globals : Globals) (running : (menuTimer mode globals).control = .gameState) :
          globals.menu.currentState = .start ∧
            menuTimer mode globals =
              ⟨.gameState, startedGlobals mode
                { globals with timerCounter := globals.timerCounter + 1 }⟩ := by
        revert running
        simp only [menuTimer]
        split
        · rename_i state
          unfold startGame beginGame
          split
          · exact fun same => by cases same
          · exact fun running => ⟨state, gameStateLoop_goesOn running⟩
        · exact fun same => absurd same (showScores_ne_gameState mode _)
        · exact fun same => by cases same
        · exact fun same => absurd same (menuHandlerLoop_ne_gameState _)
      exact startsGame (menuInput keyboard globals) running

/-- What a game starts with. -/
theorem GameStarts.eq_started {mode : ModeInfo} {program : Program} (starts : GameStarts mode program) :
    ∃ globals, program = ⟨.gameState, startedGlobals mode globals⟩ := by
  obtain ⟨before, receive, _, waits, rfl, running⟩ := starts
  obtain ⟨_, _, _, _, same⟩ := step_starts waits running
  exact ⟨_, same⟩

/-- A game starts with the arena that the four `init_` functions prepare. -/
theorem GameStarts.arena_eq {mode : ModeInfo} {program : Program} (starts : GameStarts mode program) :
    ∃ arena, program.globals.arena = startArena mode arena := by
  obtain ⟨globals, rfl⟩ := starts.eq_started
  exact ⟨globals.arena, rfl⟩

theorem gameStarts_firstGame :
    GameStarts mode14C (run mode14C (start none) [press kbEnter, timerTick 0]) :=
  ⟨run mode14C (start none) [press kbEnter], timerTick 0, (reachable_start mode14C none).run _,
    by decide, rfl, by decide⟩

/-! ### The rule -/

/-- The obligations of an invariant `Inv` of the running game that leaves `Rest` between games. -/
structure ArenaInvariant (mode : ModeInfo) (Rest : Arena → Prop) (Inv : Nat → Arena → Prop) : Prop where
  initial : Rest .initial
  rest : ∀ timer arena, Inv timer arena → Rest arena
  start : ∀ timer arena, Rest arena → Inv timer (startArena mode arena)
  key : ∀ timer arena scancode, Inv timer arena → Inv timer (shipAction mode scancode arena)
  tickRest : ∀ timer roll arena, Inv timer arena → Rest (tickArena mode (timer + 1) roll arena false).1
  tick : ∀ timer roll arena, Inv timer arena →
    countActiveEnemies (tickArena mode (timer + 1) roll arena false).1 ≠ 0 →
    Inv (timer + 1) (tickArena mode (timer + 1) roll arena false).1

namespace ArenaInvariant

/-- The two parts of the invariant, in a state of the program. -/
def Holds (Rest : Arena → Prop) (Inv : Nat → Arena → Prop) (program : Program) : Prop :=
  Rest program.globals.arena ∧
    (program.control = .gameState → Inv program.globals.timerCounter program.globals.arena)

variable {mode : ModeInfo} {Rest : Arena → Prop} {Inv : Nat → Arena → Prop}

theorem holds_menuHandlerLoop {globals : Globals} (rest : Rest globals.arena) :
    Holds Rest Inv (menuHandlerLoop globals) := by
  unfold menuHandlerLoop
  split
  · exact ⟨rest, fun running => by cases running⟩
  · exact ⟨rest, fun running => by cases running⟩

theorem holds_returned {globals : Globals} (rest : Rest globals.arena) (code : Int) :
    Holds Rest Inv ⟨.returned code, globals⟩ :=
  ⟨rest, fun running => by cases running⟩

theorem holds_scoreStateLoop {globals : Globals} (rest : Rest globals.arena) :
    Holds Rest Inv (scoreStateLoop globals) := by
  unfold scoreStateLoop
  split
  · exact holds_menuHandlerLoop rest
  · exact ⟨rest, fun running => by cases running⟩

theorem holds_showScores {globals : Globals} (rest : Rest globals.arena) :
    Holds Rest Inv (showScores mode globals) := by
  unfold showScores
  split
  · exact holds_scoreStateLoop rest
  · exact holds_returned rest 1

theorem holds_scoreMessage (keyboard : Option Ports) {globals : Globals} (rest : Rest globals.arena) :
    Holds Rest Inv (scoreMessage keyboard globals) := by
  cases keyboard with
  | none => exact holds_scoreStateLoop rest
  | some ports =>
    show Holds Rest Inv (if _ then _ else _)
    split
    · exact holds_menuHandlerLoop rest
    · exact holds_scoreStateLoop rest

variable (invariant : ArenaInvariant mode Rest Inv)
include invariant

theorem holds_gameStateLoop {globals : Globals} (inv : Inv globals.timerCounter globals.arena) :
    Holds Rest Inv (gameStateLoop globals) := by
  unfold gameStateLoop
  split
  · exact holds_menuHandlerLoop (invariant.rest _ _ inv)
  · exact ⟨invariant.rest _ _ inv, fun _ => inv⟩

theorem holds_startGame {globals : Globals} (rest : Rest globals.arena) :
    Holds Rest Inv (startGame mode globals) := by
  unfold startGame
  split
  · exact holds_returned rest 1
  · exact invariant.holds_gameStateLoop (invariant.start _ _ rest)

theorem holds_menuTimer {globals : Globals} (rest : Rest globals.arena) :
    Holds Rest Inv (menuTimer mode globals) := by
  simp only [menuTimer]
  split
  · exact invariant.holds_startGame rest
  · exact holds_showScores rest
  · exact ⟨rest, fun running => by cases running⟩
  · exact holds_menuHandlerLoop rest

theorem holds_menuMessage (keyboard : Option Ports) (timer : Option Answers) {globals : Globals}
    (rest : Rest globals.arena) : Holds Rest Inv (menuMessage mode keyboard timer globals) := by
  have after : Rest (keyboard.elim globals fun ports => menuKeyboard ports globals).arena := by
    cases keyboard <;> exact rest
  cases timer with
  | none => exact holds_menuHandlerLoop after
  | some answers => exact invariant.holds_menuTimer after

theorem inv_gameInput (keyboard : Option Ports) {globals : Globals}
    (inv : Inv globals.timerCounter globals.arena) :
    Inv globals.timerCounter (gameInput mode keyboard globals).arena := by
  rcases gameInput_arena mode keyboard globals with same | ⟨scancode, acted⟩
  · rw [same]
    exact inv
  · rw [acted]
    exact invariant.key _ _ _ inv

theorem holds_finishTick (answers : Answers) {globals : Globals}
    (inv : Inv globals.timerCounter globals.arena) :
    Holds Rest Inv (finishTick mode answers (gameTick mode answers globals)) := by
  have rest : Rest (gameTick mode answers globals).arena := invariant.tickRest _ _ _ inv
  unfold finishTick
  split
  · exact holds_returned rest 1
  split
  · exact holds_menuHandlerLoop rest
  split
  · exact holds_menuHandlerLoop rest
  · rename_i goesOn
    exact invariant.holds_gameStateLoop (invariant.tick _ _ _ inv goesOn)

theorem holds_gameMessage (keyboard : Option Ports) (timer : Option Answers) {globals : Globals}
    (inv : Inv globals.timerCounter globals.arena) :
    Holds Rest Inv (gameMessage mode keyboard timer globals) := by
  have after : Inv (gameInput mode keyboard globals).timerCounter
      (gameInput mode keyboard globals).arena := by
    rw [gameInput_timerCounter]
    exact invariant.inv_gameInput keyboard inv
  cases timer with
  | none => exact invariant.holds_gameStateLoop after
  | some answers => exact invariant.holds_finishTick answers after

theorem holds_step (program : Program) (receive : Receive) (holds : Holds Rest Inv program) :
    Holds Rest Inv (step mode program receive) := by
  obtain ⟨control, globals⟩ := program
  obtain ⟨rest, inv⟩ := holds
  cases control with
  | menuHandler =>
    cases receive with
    | hardware keyboard timer => exact invariant.holds_menuMessage keyboard timer rest
    | failed => exact holds_menuHandlerLoop rest
    | ignored => exact holds_menuHandlerLoop rest
  | gameState =>
    cases receive with
    | hardware keyboard timer => exact invariant.holds_gameMessage keyboard timer (inv rfl)
    | failed => exact invariant.holds_gameStateLoop (inv rfl)
    | ignored => exact invariant.holds_gameStateLoop (inv rfl)
  | scoreState =>
    cases receive with
    | hardware keyboard _ => exact holds_scoreMessage keyboard rest
    | failed => exact holds_scoreStateLoop rest
    | ignored => exact holds_scoreStateLoop rest
  | returned code => exact ⟨rest, inv⟩

/-- **An arena invariant holds in every reachable state.** -/
theorem reachable {program : Program} (reached : Reachable mode program) :
    Holds Rest Inv program :=
  reached.induction (fun _ => holds_menuHandlerLoop invariant.initial) invariant.holds_step

/-- The invariant where a tick begins. -/
theorem atTick {globals : Globals} (begins : AtTick mode globals) :
    Inv globals.timerCounter globals.arena := by
  obtain ⟨program, keyboard, reached, running, rfl⟩ := begins
  rw [gameInput_timerCounter]
  exact invariant.inv_gameInput keyboard ((invariant.reachable reached).2 running)

end ArenaInvariant

end SpaceInvaders
