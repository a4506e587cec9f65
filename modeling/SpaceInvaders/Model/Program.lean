/-
**The program**: the three event loops of `main.c`, `game_state.c` and `score.c`.

`game_state` and `score_state` run inside the timer branch of `menu_handler`. `Control` says at which
loop's `driver_receive` the program waits, with that loop's test passed; `step` handles one received
message up to the next `driver_receive`, through every loop exit on the way. The loops share the
global `scancode`, which is both the last key and the exit test of all three.
-/

import SpaceInvaders.Lib.Runs
import SpaceInvaders.Model.GameState
import SpaceInvaders.Model.Menu
import SpaceInvaders.Model.Score

namespace SpaceInvaders

/-- The variables the three loops share. -/
structure Globals where
  scancode : UInt8
  timerCounter : Nat
  menu : Menu
  arena : Arena
  score : Score
  playerWin : Bool
  playerLost : Bool
  showScoresDrawn : Bool

/-- Where the program waits, or the value `menu_handler` returned. -/
inductive Control
  | menuHandler
  | gameState
  | scoreState
  | returned (code : Int)
deriving DecidableEq

structure Program where
  control : Control
  globals : Globals

/-- What a timer notification gets from outside: the values of `rand()` in `fire_enemy_bullet` and
in `get_random_anime_name`, and how the file operations of a save go. -/
structure Answers where
  enemyRoll : Nat
  nameRoll : Nat
  file : FileOutcome

/-- One `driver_receive`: it fails, it brings a message that is no hardware notification, or the
keyboard and the timer bits of a notification, with what handling them gets from outside. -/
inductive Receive
  | failed
  | ignored
  | hardware (keyboard : Option Ports) (timer : Option Answers)

/-! ### Leaving a loop -/

/-- The test of the loop of `menu_handler`. -/
def menuHandlerLoop (globals : Globals) : Program :=
  if globals.scancode = kbBreakEsc then ⟨.returned 0, globals⟩ else ⟨.menuHandler, globals⟩

/-- The test of the loop of `game_state`, with what follows the loop and the return to
`menu_handler`. -/
def gameStateLoop (globals : Globals) : Program :=
  if globals.scancode = kbBreakEsc then
    menuHandlerLoop
      { globals with score := scoreReset globals.score, menu := menuSetState .main globals.menu }
  else ⟨.gameState, globals⟩

/-- What `menu_handler` does after `score_state`. -/
def leaveScores (globals : Globals) : Program :=
  menuHandlerLoop
    { globals with
      playerWin := false
      playerLost := false
      showScoresDrawn := false
      score := scoreReset globals.score
      menu := menuSetState .main globals.menu }

/-- The test of the loop of `score_state`. -/
def scoreStateLoop (globals : Globals) : Program :=
  if globals.scancode = kbBreakEsc then leaveScores globals else ⟨.scoreState, globals⟩

/-! ### The menu -/

/-- The keyboard branch of `menu_handler`. -/
def menuKeyboard (ports : Ports) (globals : Globals) : Globals :=
  let scancode := kbcIh ports globals.scancode
  { globals with scancode := scancode, menu := menuHandleInput scancode globals.menu }

/-- The start of `game_state`, up to its loop. -/
def beginGame (globals : Globals) : Program :=
  gameStateLoop
    { globals with
      playerLost := false
      playerWin := false
      score := scoreInit globals.timerCounter globals.score }

/-- The `MENU_START` branch. -/
def startGame (mode : ModeInfo) (globals : Globals) : Program :=
  if drawShip mode globals.arena.x ≠ 0 then ⟨.returned 1, globals⟩
  else beginGame { globals with arena := startArena mode globals.arena }

/-- The three screens of the `MENU_SCORES` branch. -/
inductive ScoresScreen
  | scoreboard
  | finalScore
  | gameOver
deriving DecidableEq

/-- The screen the branch picks. -/
def scoresScreen (globals : Globals) : ScoresScreen :=
  if ¬ globals.playerWin ∧ ¬ globals.playerLost then .scoreboard
  else if globals.playerWin then .finalScore
  else .gameOver

/-- The checked drawing calls of a screen succeed. -/
def ScoresScreen.draws (mode : ModeInfo) : ScoresScreen → Bool
  | .scoreboard => true
  | .finalScore => true
  | .gameOver => printXpm mode .message4 400 200 = 0 ∧ printXpm mode .message1 300 500 = 0

/-- The drawing part of the `MENU_SCORES` branch succeeds. -/
def drawsScores (mode : ModeInfo) (globals : Globals) : Bool :=
  globals.showScoresDrawn ||
    (vgDrawRectangle mode 0 0 mode.XResolution.toNat mode.YResolution.toNat = 0 &&
      (scoresScreen globals).draws mode)

/-- The `MENU_SCORES` branch. -/
def showScores (mode : ModeInfo) (globals : Globals) : Program :=
  if drawsScores mode globals then scoreStateLoop { globals with showScoresDrawn := true }
  else ⟨.returned 1, globals⟩

/-- The timer branch of `menu_handler`. -/
def menuTimer (mode : ModeInfo) (globals : Globals) : Program :=
  let globals := { globals with timerCounter := globals.timerCounter + 1 }
  match globals.menu.currentState with
  | .start => startGame mode globals
  | .scores => showScores mode globals
  | .exit => ⟨.returned 0, globals⟩
  | _ => menuHandlerLoop { globals with menu := menuRender globals.menu }

/-! ### The game -/

/-- The keyboard branch of `game_state`. -/
def gameKeyboard (mode : ModeInfo) (ports : Ports) (globals : Globals) : Globals :=
  let scancode := kbcIh ports globals.scancode
  if scancode &&& kbBreakCode ≠ 0 then { globals with scancode := scancode }
  else
    { globals with
      scancode := scancode
      arena := shipAction mode scancode globals.arena
      score :=
        if launchesBullet scancode globals.arena then scoreAddBullet globals.score
        else globals.score }

/-- The timer branch of `game_state` up to its drawing. -/
def gameTick (mode : ModeInfo) (answers : Answers) (globals : Globals) : Globals :=
  let timer := globals.timerCounter + 1
  let after := tickArena mode timer answers.enemyRoll globals.arena globals.playerLost
  { globals with
    timerCounter := timer
    score := scoreUpdateTime timer globals.score
    arena := after.1
    playerLost := after.2 }

/-- The return on a lost game. -/
def loseGame (globals : Globals) : Program :=
  menuHandlerLoop
    { globals with
      score := scoreCalculateFinal globals.score
      menu := menuSetState .gameOver globals.menu }

/-- The return on a won game. -/
def winGame (answers : Answers) (globals : Globals) : Program :=
  menuHandlerLoop
    { globals with
      playerWin := true
      score := saveWinHighscore answers.nameRoll answers.file (scoreCalculateFinal globals.score)
      menu := menuSetState .scores globals.menu }

/-- The end of the timer branch of `game_state`: the drawing and the end of the game. -/
def finishTick (mode : ModeInfo) (answers : Answers) (globals : Globals) : Program :=
  if ¬ drawsFrame mode globals.arena then ⟨.returned 1, globals⟩
  else if globals.playerLost then loseGame globals
  else if countActiveEnemies globals.arena = 0 then winGame answers globals
  else gameStateLoop globals

/-! ### One message -/

/-- A notification in `menu_handler`. -/
def menuMessage (mode : ModeInfo) (keyboard : Option Ports) (timer : Option Answers)
    (globals : Globals) : Program :=
  let globals := keyboard.elim globals fun ports => menuKeyboard ports globals
  timer.elim (menuHandlerLoop globals) fun _ => menuTimer mode globals

/-- The keyboard part of a notification in `game_state`. -/
def gameInput (mode : ModeInfo) (keyboard : Option Ports) (globals : Globals) : Globals :=
  keyboard.elim globals fun ports => gameKeyboard mode ports globals

/-- A notification in `game_state`. -/
def gameMessage (mode : ModeInfo) (keyboard : Option Ports) (timer : Option Answers)
    (globals : Globals) : Program :=
  let globals := gameInput mode keyboard globals
  timer.elim (gameStateLoop globals) fun answers =>
    finishTick mode answers (gameTick mode answers globals)

/-- A notification in `score_state`, which handles the keyboard only. -/
def scoreMessage (keyboard : Option Ports) (globals : Globals) : Program :=
  keyboard.elim (scoreStateLoop globals) fun ports =>
    let scancode := kbcIh ports globals.scancode
    let globals := { globals with scancode := scancode }
    if scancode = kbEnter ∨ scancode = kbBreakEsc then leaveScores globals
    else scoreStateLoop globals

/-- Handle one `driver_receive`. A failed one, or a message that is no hardware notification, goes
back to the test of the loop. -/
def step (mode : ModeInfo) (program : Program) (receive : Receive) : Program :=
  match program.control, receive with
  | .menuHandler, .hardware keyboard timer => menuMessage mode keyboard timer program.globals
  | .menuHandler, _ => menuHandlerLoop program.globals
  | .gameState, .hardware keyboard timer => gameMessage mode keyboard timer program.globals
  | .gameState, _ => gameStateLoop program.globals
  | .scoreState, .hardware keyboard _ => scoreMessage keyboard program.globals
  | .scoreState, _ => scoreStateLoop program.globals
  | .returned _, _ => program

/-- The variables after `init_game`: the initial values, the loaded table and the main menu. -/
def initGame (csv : Option (List UInt8)) : Globals where
  scancode := 0
  timerCounter := 0
  menu := menuInit
  arena := .initial
  score :=
    { Score.initial csv with table := loadHighscoresFromCsv csv (Score.initial csv).table }
  playerWin := false
  playerLost := false
  showScoresDrawn := false

/-- The program when `menu_handler` is called. -/
def start (csv : Option (List UInt8)) : Program := menuHandlerLoop (initGame csv)

/-- The program after a sequence of messages. -/
abbrev run (mode : ModeInfo) (program : Program) (messages : List Receive) : Program :=
  Runs.run (step mode) program messages

theorem run_append (mode : ModeInfo) (program : Program) (first second : List Receive) :
    run mode program (first ++ second) = run mode (run mode program first) second :=
  Runs.run_append program first second

/-! ### Messages of a machine without faults -/

/-- A key sends its scancode. -/
def press (scancode : UInt8) : Receive := .hardware (some (delivers scancode)) none

/-- The timer fires, with the value the next `rand()` of the enemies returns. -/
def timerTick (roll : Nat) : Receive := .hardware none (some ⟨roll, 0, .success⟩)

/-! ### Reachable states -/

/-- A state of some run of the program, whatever file it started with. -/
def Reachable (mode : ModeInfo) (program : Program) : Prop :=
  ∃ csv messages, program = run mode (start csv) messages

theorem reachable_start (mode : ModeInfo) (csv : Option (List UInt8)) :
    Reachable mode (start csv) :=
  ⟨csv, [], rfl⟩

theorem Reachable.step {mode : ModeInfo} {program : Program} (reached : Reachable mode program)
    (receive : Receive) : Reachable mode (step mode program receive) := by
  obtain ⟨csv, messages, rfl⟩ := reached
  exact ⟨csv, messages ++ [receive], (Runs.run_snoc _ _ _).symm⟩

theorem Reachable.run {mode : ModeInfo} {program : Program} (reached : Reachable mode program)
    (messages : List Receive) : Reachable mode (run mode program messages) :=
  Runs.run_invariant (fun _ receive reached => reached.step receive) reached messages

/-- The induction rule of the reachable states. -/
theorem Reachable.induction {mode : ModeInfo} {Inv : Program → Prop}
    (initial : ∀ csv, Inv (start csv))
    (preserved : ∀ program receive, Inv program → Inv (SpaceInvaders.step mode program receive))
    {program : Program} (reached : Reachable mode program) : Inv program := by
  obtain ⟨csv, messages, rfl⟩ := reached
  exact Runs.run_invariant preserved (initial csv) messages

end SpaceInvaders
