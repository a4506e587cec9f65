/-
**What a new game inherits.**

`MENU_START` calls four `init_` functions and `game_state` resets its two flags and the score. None of
them touches the ship's place, the fire delay, the formation's direction, its pending drop and its move
timer: a game starts with what the last one left there.

* `Together`: two games that look the same and react the same; one message keeps it (`together_step`);
* `same_game_iff`: two games stay the same under the same keys and ticks exactly when they start with
  the same values there;
* `not_sameGame_lost`: the game after a lost one.
-/

import SpaceInvaders.Control.Escape
import SpaceInvaders.Game.Drawing
import SpaceInvaders.Game.EnemyFire
import SpaceInvaders.Game.Twins

namespace SpaceInvaders

/-- The variables at the `MENU_START` branch: a reachable `menu_handler` has handled the keyboard part
of a notification and counted the tick. -/
def AtMenuStart (mode : ModeInfo) (globals : Globals) : Prop :=
  ∃ program keyboard, Reachable mode program ∧ program.control = .menuHandler ∧
    globals.menu.currentState = .start ∧
    globals =
      let handled := Option.elim keyboard program.globals fun ports =>
        menuKeyboard ports program.globals
      { handled with timerCounter := handled.timerCounter + 1 }

/-- What a player sees of a game, and what decides its next steps. Of the bullets it is the ones in
flight. -/
structure GameView where
  enemies : List Enemy
  enemyDirection : Int
  shouldDrop : Bool
  enemyMoveTimer : Int
  bullets : List (Option Bullet)
  enemyBullets : List (Option Bullet)
  shields : List Shield
  x : Int
  fireDelayCounter : Int
  score : GameScore
  control : Control
  menuState : MenuState
  playerWin : Bool
  playerLost : Bool
deriving DecidableEq

/-- The view of a state of the program. -/
def gameView (program : Program) : GameView where
  enemies := program.globals.arena.enemies
  enemyDirection := program.globals.arena.enemyDirection
  shouldDrop := program.globals.arena.shouldDrop
  enemyMoveTimer := program.globals.arena.enemyMoveTimer
  bullets := program.globals.arena.bullets.map (Slots.shown Bullet.active)
  enemyBullets := program.globals.arena.enemyBullets.map (Slots.shown Bullet.active)
  shields := program.globals.arena.shields
  x := program.globals.arena.x
  fireDelayCounter := program.globals.arena.fireDelayCounter
  score := program.globals.score.currentScore
  control := program.control
  menuState := program.globals.menu.currentState
  playerWin := program.globals.playerWin
  playerLost := program.globals.playerLost

/-- The keyboard part of a message is a key event: the interrupt takes a byte. -/
def Receive.TakesByte : Receive → Prop
  | .hardware (some ports) _ => ∃ byte, receivedByte ports = some byte
  | _ => True

/-- The games that start with these variables go through the same states under the same messages. -/
def SameGame (mode : ModeInfo) (globals globals' : Globals) : Prop :=
  ∀ messages : List Receive, (∀ receive ∈ messages, receive.TakesByte) →
    Plays mode (startGame mode globals) messages →
    gameView (run mode (startGame mode globals) messages) =
      gameView (run mode (startGame mode globals') messages)

/-- The variables of the arena that no new game resets. -/
def Arena.carried (arena : Arena) : Int × Int × Int × Bool × Int :=
  (arena.x, arena.fireDelayCounter, arena.enemyDirection, arena.shouldDrop, arena.enemyMoveTimer)

/-! ### Two games at a time -/

/-- The scores show the same and count alike. -/
def SameScore (score score' : Score) : Prop :=
  score'.currentScore = score.currentScore ∧ score'.gameActive = score.gameActive

/-- Two states of the variables that show the same and whose loops end alike. -/
structure Alike (globals globals' : Globals) : Prop where
  arena : Twin globals.arena globals'.arena
  score : SameScore globals.score globals'.score
  phase : globals.timerCounter % 60 = globals'.timerCounter % 60
  state : globals'.menu.currentState = globals.menu.currentState
  win : globals'.playerWin = globals.playerWin
  lost : globals'.playerLost = globals.playerLost
  escape : globals'.scancode = kbBreakEsc ↔ globals.scancode = kbBreakEsc

/-- The ticks since the start of the game. -/
def Globals.elapsed (globals : Globals) : Int :=
  (globals.timerCounter : Int) - globals.score.gameStartTime

/-- Two programs that run together: they wait at the same place and are alike, with the same time since
the start of a running game. -/
structure Together (program program' : Program) : Prop where
  control : program'.control = program.control
  alike : Alike program.globals program'.globals
  elapsed : program.control = .gameState → program'.globals.elapsed = program.globals.elapsed

/-- Programs that run together show the same. -/
theorem Together.gameView_eq {program program' : Program} (together : Together program program') :
    gameView program = gameView program' := by
  obtain ⟨control, ⟨twin, ⟨score, _⟩, _, state, win, lost, _⟩, _⟩ := together
  obtain ⟨bullets, enemyBullets, same, same', arena⟩ := twin
  unfold gameView
  rw [control, arena, score, state, win, lost, same.map_shown, same'.map_shown]

/-! ### The score -/

theorem SameScore.addBullet {score score' : Score} (same : SameScore score score') :
    SameScore (scoreAddBullet score) (scoreAddBullet score') := by
  obtain ⟨current, counting⟩ := same
  unfold scoreAddBullet
  rw [counting]
  split
  · exact ⟨by rw [current], rfl⟩
  · exact ⟨current, counting⟩

theorem scoreAddBullet_gameStartTime (score : Score) :
    (scoreAddBullet score).gameStartTime = score.gameStartTime := by
  unfold scoreAddBullet
  split <;> rfl

theorem SameScore.updateTime {score score' : Score} (same : SameScore score score')
    {timer timer' : Nat}
    (elapsed : (timer' : Int) - score'.gameStartTime = (timer : Int) - score.gameStartTime) :
    SameScore (scoreUpdateTime timer score) (scoreUpdateTime timer' score') := by
  obtain ⟨current, counting⟩ := same
  unfold scoreUpdateTime
  rw [counting, elapsed]
  split
  · exact ⟨by rw [current], rfl⟩
  · exact ⟨current, counting⟩

theorem scoreUpdateTime_gameStartTime (timer : Nat) (score : Score) :
    (scoreUpdateTime timer score).gameStartTime = score.gameStartTime := by
  unfold scoreUpdateTime
  split <;> rfl

theorem SameScore.calculateFinal {score score' : Score} (same : SameScore score score') :
    SameScore (scoreCalculateFinal score) (scoreCalculateFinal score') := by
  obtain ⟨current, counting⟩ := same
  unfold scoreCalculateFinal
  rw [counting]
  split
  · exact ⟨by simp only [current], rfl⟩
  · exact ⟨current, counting⟩

/-- Saving the result leaves the score that is shown. -/
theorem sameScore_saveWinHighscore (roll : Nat) (outcome : FileOutcome) (score : Score) :
    SameScore score (saveWinHighscore roll outcome score) := by
  unfold saveWinHighscore
  split <;> exact ⟨rfl, rfl⟩

theorem SameScore.saved {score score' : Score} (same : SameScore score score') (roll : Nat)
    (outcome : FileOutcome) :
    SameScore (saveWinHighscore roll outcome score) (saveWinHighscore roll outcome score') := by
  have first := sameScore_saveWinHighscore roll outcome score
  have second := sameScore_saveWinHighscore roll outcome score'
  exact ⟨(second.1.trans same.1).trans first.1.symm, (second.2.trans same.2).trans first.2.symm⟩

/-! ### The loops -/

section Loops

variable {globals globals' : Globals}

theorem together_menuHandlerLoop (alike : Alike globals globals') :
    Together (menuHandlerLoop globals) (menuHandlerLoop globals') := by
  have control : (menuHandlerLoop globals').control = (menuHandlerLoop globals).control := by
    unfold menuHandlerLoop
    by_cases escape : globals.scancode = kbBreakEsc
    · rw [if_pos escape, if_pos (alike.escape.mpr escape)]
    · rw [if_neg escape, if_neg (mt alike.escape.mp escape)]
  refine ⟨control, ?_, fun running => absurd running (menuHandlerLoop_ne_gameState globals)⟩
  rw [menuHandlerLoop_globals, menuHandlerLoop_globals]
  exact alike

theorem together_gameStateLoop (alike : Alike globals globals')
    (elapsed : globals'.elapsed = globals.elapsed) :
    Together (gameStateLoop globals) (gameStateLoop globals') := by
  unfold gameStateLoop
  by_cases escape : globals.scancode = kbBreakEsc
  · rw [if_pos escape, if_pos (alike.escape.mpr escape)]
    obtain ⟨arena, _, phase, state, win, lost, escapes⟩ := alike
    exact together_menuHandlerLoop ⟨arena, ⟨rfl, rfl⟩, phase, rfl, win, lost, escapes⟩
  · rw [if_neg escape, if_neg (mt alike.escape.mp escape)]
    exact ⟨rfl, alike, fun _ => elapsed⟩

/-- The keyboard part of a message, with a byte. -/
theorem alike_gameInput (mode : ModeInfo) {keyboard : Option Ports} {timer : Option Answers}
    (takes : (Receive.hardware keyboard timer).TakesByte) (alike : Alike globals globals')
    (elapsed : globals'.elapsed = globals.elapsed) :
    Alike (gameInput mode keyboard globals) (gameInput mode keyboard globals') ∧
      (gameInput mode keyboard globals').elapsed = (gameInput mode keyboard globals).elapsed := by
  cases keyboard with
  | none => exact ⟨alike, elapsed⟩
  | some ports =>
    obtain ⟨byte, taken⟩ := takes
    have key (scancode : UInt8) : kbcIh ports scancode = byte := by
      rw [kbcIh_eq, taken, Option.getD_some]
    obtain ⟨arena, score, phase, state, win, lost, _⟩ := alike
    show Alike (gameKeyboard mode ports globals) (gameKeyboard mode ports globals') ∧
      (gameKeyboard mode ports globals').elapsed = (gameKeyboard mode ports globals).elapsed
    simp only [gameKeyboard, key]
    by_cases isBreak : byte &&& kbBreakCode ≠ 0
    · rw [if_pos isBreak, if_pos isBreak]
      exact ⟨⟨arena, score, phase, state, win, lost, Iff.rfl⟩, elapsed⟩
    · rw [if_neg isBreak, if_neg isBreak, ← arena.launchesBullet byte]
      have acted := arena.shipAction mode byte
      by_cases launches : launchesBullet byte globals.arena = true
      · rw [if_pos launches, if_pos launches]
        refine ⟨⟨acted, score.addBullet, phase, state, win, lost, Iff.rfl⟩, ?_⟩
        simp only [Globals.elapsed, scoreAddBullet_gameStartTime]
        exact elapsed
      · rw [if_neg launches, if_neg launches]
        exact ⟨⟨acted, score, phase, state, win, lost, Iff.rfl⟩, elapsed⟩

/-- The timer part up to the drawing. -/
theorem alike_gameTick (mode : ModeInfo) (answers : Answers) (alike : Alike globals globals')
    (elapsed : globals'.elapsed = globals.elapsed) :
    Alike (gameTick mode answers globals) (gameTick mode answers globals') ∧
      (gameTick mode answers globals').elapsed = (gameTick mode answers globals).elapsed := by
  obtain ⟨arena, score, phase, state, win, lost, escapes⟩ := alike
  have later : (globals.timerCounter + 1) % 60 = (globals'.timerCounter + 1) % 60 := by omega
  have time : ((globals'.timerCounter + 1 : Nat) : Int) - globals'.score.gameStartTime =
      ((globals.timerCounter + 1 : Nat) : Int) - globals.score.gameStartTime := by
    unfold Globals.elapsed at elapsed
    omega
  obtain ⟨twin, flag⟩ := arena.tickArena mode later answers.enemyRoll globals.playerLost
  constructor
  · refine ⟨?_, score.updateTime time, later, state, win, ?_, escapes⟩
    · show Twin _ (tickArena mode _ answers.enemyRoll globals'.arena globals'.playerLost).1
      rw [lost]
      exact twin
    · show (tickArena mode _ answers.enemyRoll globals'.arena globals'.playerLost).2 = _
      rw [lost]
      exact flag.symm
  · simp only [Globals.elapsed, gameTick, scoreUpdateTime_gameStartTime]
    exact time

theorem together_finishTick (mode : ModeInfo) (answers : Answers) (alike : Alike globals globals')
    (elapsed : globals'.elapsed = globals.elapsed) :
    Together (finishTick mode answers globals) (finishTick mode answers globals') := by
  obtain ⟨arena, score, phase, state, win, lost, escapes⟩ := alike
  unfold finishTick
  rw [← arena.drawsFrame mode, lost, ← arena.countActiveEnemies]
  split
  · exact ⟨rfl, ⟨arena, score, phase, state, win, lost, escapes⟩, fun running => by cases running⟩
  split
  · exact together_menuHandlerLoop ⟨arena, score.calculateFinal, phase, rfl, win, lost, escapes⟩
  split
  · exact together_menuHandlerLoop
      ⟨arena, score.calculateFinal.saved _ _, phase, rfl, rfl, lost, escapes⟩
  · exact together_gameStateLoop ⟨arena, score, phase, state, win, lost, escapes⟩ elapsed

end Loops

/-- **One message keeps two running games together.** -/
theorem together_step (mode : ModeInfo) {program program' : Program}
    (together : Together program program')
    (running : program.control = .gameState) {receive : Receive} (takes : receive.TakesByte) :
    Together (step mode program receive) (step mode program' receive) := by
  obtain ⟨control, globals⟩ := program
  obtain ⟨control', globals'⟩ := program'
  cases running
  obtain ⟨same, alike, elapsed⟩ := together
  cases same
  have time := elapsed rfl
  cases receive with
  | failed => exact together_gameStateLoop alike time
  | ignored => exact together_gameStateLoop alike time
  | hardware keyboard timer =>
    obtain ⟨handled, time⟩ := alike_gameInput mode takes alike time
    cases timer with
    | none => exact together_gameStateLoop handled time
    | some answers =>
      obtain ⟨ticked, time⟩ := alike_gameTick mode answers handled time
      exact together_finishTick mode answers ticked time

/-- Games that are together stay so to the end. -/
theorem together_run (mode : ModeInfo) {program program' : Program}
    (together : Together program program')
    {messages : List Receive} (takes : ∀ receive ∈ messages, receive.TakesByte)
    (plays : Plays mode program messages) :
    Together (run mode program messages) (run mode program' messages) := by
  refine @Runs.run_related _ _ _ (step mode) (step mode) Together _ Receive.TakesByte
    (fun program program' receive running takes together => ?_) _ _ together _ plays takes
  exact together_step mode together running takes

/-! ### The start of a game -/

/-- The array of the player's bullets keeps its size. -/
theorem bullets_size : ArenaInvariant mode14C (fun arena => arena.bullets.length = maxBullets)
    fun _ arena => arena.bullets.length = maxBullets where
  initial := rfl
  rest _ _ size := size
  start _ arena size := by
    show (arena.bullets.map Bullet.retire).length = _
    rw [List.length_map, size]
  key _ arena scancode size := by
    unfold shipAction
    split
    · split <;> exact size
    split
    · exact size
    split
    · split
      · show ((Slots.fillFirst Bullet.active (shipBullet arena.x) arena.bullets).getD
          arena.bullets).length = _
        cases taken : Slots.fillFirst Bullet.active (shipBullet arena.x) arena.bullets with
        | none => exact size
        | some filled => exact (Slots.fillFirst_length taken).trans size
      · exact size
    · exact size
  tickRest _ _ arena size := by
    rw [Slots.Released.length_eq (tickArena_bullets mode14C _ _ arena false), List.length_map, size]
  tick _ _ arena size _ := by
    rw [Slots.Released.length_eq (tickArena_bullets mode14C _ _ arena false), List.length_map, size]

/-- What a game starts from, whatever came before. -/
structure Ready (globals : Globals) : Prop where
  ship : drawShip mode14C globals.arena.x = 0
  goesOn : globals.scancode ≠ kbBreakEsc
  bullets : globals.arena.bullets.length = maxBullets
  enemyBullets : globals.arena.enemyBullets.length = maxEnemyBullets
  state : globals.menu.currentState = .start

theorem AtMenuStart.ready {globals : Globals} (begins : AtMenuStart mode14C globals) :
    Ready globals := by
  obtain ⟨program, keyboard, reached, waits, chosen, rfl⟩ := begins
  have arena : (keyboard.elim program.globals fun ports => menuKeyboard ports program.globals).arena =
      program.globals.arena := by
    cases keyboard <;> rfl
  have goesOn : (keyboard.elim program.globals fun ports =>
      menuKeyboard ports program.globals).scancode ≠ kbBreakEsc := by
    cases keyboard with
    | none =>
      rcases passedTest_of_reachable reached with ⟨code, returned⟩ | passed
      · rw [waits] at returned
        cases returned
      · exact passed
    | some ports =>
      -- the break code would have led back to the main menu
      intro escape
      change kbcIh ports program.globals.scancode = kbBreakEsc at escape
      change (menuHandleInput (kbcIh ports program.globals.scancode) _).currentState = _ at chosen
      rw [escape, menuHandleInput_esc] at chosen
      cases chosen
  refine ⟨?_, goesOn, ?_, ?_, chosen⟩
  all_goals
    show _ = _
    rw [arena]
  · exact (field_invariant.reachable reached).1.2.drawShip
  · exact (bullets_size.reachable reached).1
  · exact (fire_invariant.reachable reached).1.2

/-- The game that starts. -/
theorem Ready.startGame_eq {globals : Globals} (ready : Ready globals) :
    startGame mode14C globals =
      ⟨.gameState,
        { globals with
          arena := startArena mode14C globals.arena
          playerLost := false
          playerWin := false
          score := scoreInit globals.timerCounter globals.score }⟩ := by
  rw [startGame, if_neg (not_not.mpr ready.ship), beginGame, gameStateLoop,
    if_neg (by exact ready.goesOn)]

/-- Arenas that carry the same over start twins. -/
theorem twin_startArena {arena arena' : Arena} (mode : ModeInfo) (same : arena.carried = arena'.carried)
    (bullets : arena.bullets.length = arena'.bullets.length)
    (enemyBullets : arena.enemyBullets.length = arena'.enemyBullets.length) :
    Twin (startArena mode arena) (startArena mode arena') := by
  refine ⟨arena'.bullets.map Bullet.retire, arena'.enemyBullets.map Bullet.retire, ?_, ?_, ?_⟩
  · refine Slots.SameBusy.of_idle ?_ active_of_mem_retire active_of_mem_retire
    show (arena.bullets.map Bullet.retire).length = _
    rw [List.length_map, List.length_map, bullets]
  · refine Slots.SameBusy.of_idle ?_ active_of_mem_retire active_of_mem_retire
    show (arena.enemyBullets.map Bullet.retire).length = _
    rw [List.length_map, List.length_map, enemyBullets]
  · simp only [Arena.carried, Prod.mk.injEq] at same
    obtain ⟨x, delay, direction, drop, moveTimer⟩ := same
    simp only [startArena, initShields, initEnemyBullets, initEnemies, initBullets, x, delay,
      direction, drop, moveTimer]

/-- Two such games begin with the same view. -/
theorem SameGame.first {mode : ModeInfo} {globals globals' : Globals}
    (same : SameGame mode globals globals') :
    gameView (startGame mode globals) = gameView (startGame mode globals') :=
  same [] (by simp) trivial

/-- **Two games stay the same exactly when they inherit the same.** -/
theorem same_game_iff {globals globals' : Globals} (begins : AtMenuStart mode14C globals)
    (begins' : AtMenuStart mode14C globals')
    (phase : globals.timerCounter % 60 = globals'.timerCounter % 60) :
    SameGame mode14C globals globals' ↔ globals.arena.carried = globals'.arena.carried := by
  have ready := begins.ready
  have ready' := begins'.ready
  constructor
  · intro same
    have first := same.first
    rw [ready.startGame_eq, ready'.startGame_eq] at first
    simp only [gameView, startArena, initShields, initEnemyBullets, initEnemies, initBullets,
      GameView.mk.injEq] at first
    simp only [Arena.carried, Prod.mk.injEq]
    tauto
  · intro same messages takes plays
    have together : Together (startGame mode14C globals) (startGame mode14C globals') := by
      rw [ready.startGame_eq, ready'.startGame_eq]
      refine ⟨rfl, ⟨?_, ⟨rfl, rfl⟩, phase, ?_, rfl, rfl, ?_⟩, fun _ => ?_⟩
      · exact twin_startArena mode14C same (ready.bullets.trans ready'.bullets.symm)
          (ready.enemyBullets.trans ready'.enemyBullets.symm)
      · exact ready'.state.trans ready.state.symm
      · exact iff_of_false ready'.goesOn ready.goesOn
      · simp only [Globals.elapsed, scoreInit, sub_self]
    exact (together_run mode14C together takes plays).gameView_eq

/-! ### Two histories -/

/-- The variables at the `MENU_START` branch after a history. -/
def menuStart (history : List Receive) : Globals :=
  let globals := (run mode14C (start none) history).globals
  { globals with timerCounter := globals.timerCounter + 1 }

theorem atMenuStart_menuStart {history : List Receive}
    (waits : (run mode14C (start none) history).control = .menuHandler)
    (chosen : (run mode14C (start none) history).globals.menu.currentState = .start) :
    AtMenuStart mode14C (menuStart history) :=
  ⟨_, none, (reachable_start mode14C none).run history, waits, chosen, rfl⟩

/-- The first game at once, and 60 ticks later. -/
theorem same_game_later :
    SameGame mode14C (menuStart [press kbEnter])
      (menuStart (List.replicate 60 (timerTick 0) ++ [press kbEnter])) := by
  have later : ((run mode14C (start none) (List.replicate 60 (timerTick 0) ++ [press kbEnter])).control =
        .menuHandler ∧
      (run mode14C (start none)
        (List.replicate 60 (timerTick 0) ++ [press kbEnter])).globals.menu.currentState = .start) ∧
      (menuStart [press kbEnter]).timerCounter % 60 =
        (menuStart (List.replicate 60 (timerTick 0) ++ [press kbEnter])).timerCounter % 60 ∧
      (menuStart [press kbEnter]).arena.carried =
        (menuStart (List.replicate 60 (timerTick 0) ++ [press kbEnter])).arena.carried := by
    decide +kernel
  obtain ⟨⟨waits, chosen⟩, phase, same⟩ := later
  have first := @atMenuStart_menuStart [press kbEnter] (by decide) (by decide)
  exact (same_game_iff first (atMenuStart_menuStart waits chosen) phase).mpr same

/-- A game that is lost at its 82nd tick, and the choice of another one. -/
def lostGame : List Receive :=
  [press kbEnter, timerTick 0, press kbA] ++ List.replicate 81 (timerTick 14) ++
    [press kbEnter, press kbEnter]

/-- **The game after a lost one** is another one than the first: the ship stands where it was left. -/
theorem not_sameGame_lost :
    AtMenuStart mode14C (menuStart (List.replicate 22 (timerTick 0) ++ [press kbEnter])) ∧
      AtMenuStart mode14C (menuStart lostGame) ∧
      (menuStart (List.replicate 22 (timerTick 0) ++ [press kbEnter])).timerCounter % 60 =
        (menuStart lostGame).timerCounter % 60 ∧
      ¬ SameGame mode14C (menuStart (List.replicate 22 (timerTick 0) ++ [press kbEnter]))
        (menuStart lostGame) := by
  have facts :
      ((run mode14C (start none) (List.replicate 22 (timerTick 0) ++ [press kbEnter])).control =
          .menuHandler ∧
        (run mode14C (start none)
          (List.replicate 22 (timerTick 0) ++ [press kbEnter])).globals.menu.currentState = .start) ∧
      ((run mode14C (start none) lostGame).control = .menuHandler ∧
        (run mode14C (start none) lostGame).globals.menu.currentState = .start) ∧
      (menuStart (List.replicate 22 (timerTick 0) ++ [press kbEnter])).timerCounter % 60 =
        (menuStart lostGame).timerCounter % 60 ∧
      (gameView (startGame mode14C
          (menuStart (List.replicate 22 (timerTick 0) ++ [press kbEnter])))).x ≠
        (gameView (startGame mode14C (menuStart lostGame))).x := by
    decide +kernel
  obtain ⟨⟨waits, chosen⟩, ⟨waits', chosen'⟩, phase, apart⟩ := facts
  refine ⟨atMenuStart_menuStart waits chosen, atMenuStart_menuStart waits' chosen', phase,
    fun same => apart ?_⟩
  exact congrArg GameView.x same.first

end SpaceInvaders
