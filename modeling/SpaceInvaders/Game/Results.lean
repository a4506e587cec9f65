/-
**Results are recorded exactly for wins.**

Five variables decide what becomes of a game: `player_win`, `player_lost`, `highscore_saved_this_game`,
the menu state and `game_active`. While a game runs the first three are clear (`InGame`), so its last tick
alone decides (`step_ends`), and the file grows by one row for every win and by nothing else
(`csv_run`).

* `results_recorded`: the whole account, with what each row holds;
* `not_endsLost_undrawn`: a tick that finds the ship hit but whose frame is not drawn.
-/

import SpaceInvaders.Game.Crossing
import SpaceInvaders.Game.LiveScore

namespace SpaceInvaders

/-! ### The flags -/

/-- What holds while a game runs. -/
structure InGame (globals : Globals) : Prop where
  notWon : globals.playerWin = false
  notLost : globals.playerLost = false
  unsaved : globals.score.highscoreSavedThisGame = false
  state : globals.menu.currentState = .start

/-- A key changes none of it, and not the file. -/
theorem gameInput_flags (mode : ModeInfo) (keyboard : Option Ports) (globals : Globals) :
    (gameInput mode keyboard globals).playerWin = globals.playerWin ∧
      (gameInput mode keyboard globals).playerLost = globals.playerLost ∧
      (gameInput mode keyboard globals).menu = globals.menu ∧
      (gameInput mode keyboard globals).score.highscoreSavedThisGame =
        globals.score.highscoreSavedThisGame ∧
      (gameInput mode keyboard globals).score.csv = globals.score.csv := by
  have counted : (scoreAddBullet globals.score).highscoreSavedThisGame =
        globals.score.highscoreSavedThisGame ∧
      (scoreAddBullet globals.score).csv = globals.score.csv := by
    unfold scoreAddBullet
    split
    · exact ⟨rfl, rfl⟩
    · exact ⟨rfl, rfl⟩
  cases keyboard with
  | none => exact ⟨rfl, rfl, rfl, rfl, rfl⟩
  | some ports =>
    simp only [gameInput, Option.elim, gameKeyboard]
    split
    · exact ⟨rfl, rfl, rfl, rfl, rfl⟩
    refine ⟨rfl, rfl, rfl, ?_⟩
    show (if _ then _ else _ : Score).highscoreSavedThisGame = _ ∧ (if _ then _ else _ : Score).csv = _
    split
    · exact counted
    · exact ⟨rfl, rfl⟩

theorem InGame.input {globals : Globals} (inGame : InGame globals) (mode : ModeInfo)
    (keyboard : Option Ports) : InGame (gameInput mode keyboard globals) := by
  obtain ⟨win, lost, menu, saved, _⟩ := gameInput_flags mode keyboard globals
  exact ⟨win.trans inGame.notWon, lost.trans inGame.notLost, saved.trans inGame.unsaved,
    (congrArg Menu.currentState menu).trans inGame.state⟩

/-- The time changes neither the file nor whether it was written. -/
theorem scoreUpdateTime_csv (timerTicks : Nat) (score : Score) :
    (scoreUpdateTime timerTicks score).csv = score.csv ∧
      (scoreUpdateTime timerTicks score).highscoreSavedThisGame = score.highscoreSavedThisGame := by
  unfold scoreUpdateTime
  split
  · exact ⟨rfl, rfl⟩
  · exact ⟨rfl, rfl⟩

/-- The final score changes neither the counters nor the file. -/
theorem scoreCalculateFinal_keeps (score : Score) :
    ((scoreCalculateFinal score).currentScore.bulletsFired = score.currentScore.bulletsFired ∧
        (scoreCalculateFinal score).currentScore.gameTimeSeconds =
          score.currentScore.gameTimeSeconds) ∧
      (scoreCalculateFinal score).highscoreSavedThisGame = score.highscoreSavedThisGame ∧
      (scoreCalculateFinal score).csv = score.csv := by
  unfold scoreCalculateFinal
  split
  · exact ⟨⟨rfl, rfl⟩, rfl, rfl⟩
  · exact ⟨⟨rfl, rfl⟩, rfl, rfl⟩

/-- The flags at the end of a tick, but for `player_lost`. -/
theorem InGame.ticked {globals : Globals} (inGame : InGame globals) (mode : ModeInfo)
    (keyboard : Option Ports) (answers : Answers) :
    (tickGlobals mode keyboard answers globals).playerWin = false ∧
      (tickGlobals mode keyboard answers globals).menu.currentState = .start ∧
      (tickGlobals mode keyboard answers globals).score.highscoreSavedThisGame = false ∧
      (tickGlobals mode keyboard answers globals).score.csv = globals.score.csv := by
  have pressed := inGame.input mode keyboard
  obtain ⟨csv, saved⟩ := scoreUpdateTime_csv ((gameInput mode keyboard globals).timerCounter + 1)
    (gameInput mode keyboard globals).score
  refine ⟨pressed.notWon, pressed.state, saved.trans pressed.unsaved, csv.trans ?_⟩
  exact (gameInput_flags mode keyboard globals).2.2.2.2

/-- **The flags are clear while a game runs.** -/
theorem inGame_of_reachable {mode : ModeInfo} {program : Program} (reached : Reachable mode program)
    (running : program.control = .gameState) : InGame program.globals := by
  refine reached.inGame (fun globals state => ⟨rfl, rfl, rfl, state⟩)
    (fun globals receive inGame goesOn => ?_) running
  cases receive with
  | failed => exact inGame
  | ignored => exact inGame
  | hardware keyboard timer =>
    cases timer with
    | none => exact inGame.input mode keyboard
    | some answers =>
      obtain ⟨win, state, saved, _⟩ := inGame.ticked mode keyboard answers
      exact ⟨win, (finishTick_goesOn goesOn).2.1, saved, state⟩

/-! ### The last tick -/

/-- `check_enemy_bullet_collision` finds a bullet on the ship. -/
def bulletOnShip (arena : Arena) : Bool :=
  arena.enemyBullets.any fun bullet => bullet.active && bulletHitsShip arena.x bullet

/-- `check_ship_alien_collision` finds an alien on the ship. -/
def alienOnShip (arena : Arena) : Bool :=
  arena.enemies.any fun enemy => enemy.active && shipHitsEnemy arena.x enemy

/-- One of the two checks of a tick finds the ship hit. -/
def findsHit (mode : ModeInfo) (timer roll : Nat) (arena : Arena) : Bool :=
  bulletOnShip (advance mode timer roll arena) ||
    alienOnShip (shoot (advance mode timer roll arena) false).1

/-- Whether the tick of a message finds the ship hit. -/
def tickFindsHit (mode : ModeInfo) (keyboard : Option Ports) (answers : Answers) (globals : Globals) :
    Bool :=
  findsHit mode (globals.timerCounter + 1) answers.enemyRoll (gameInput mode keyboard globals).arena

/-- The message is a tick whose frame is drawn and whose checks find the ship hit. -/
def loses (mode : ModeInfo) (globals : Globals) : Receive → Bool
  | .hardware keyboard (some answers) =>
    drawsFrame mode (tickGlobals mode keyboard answers globals).arena &&
      tickFindsHit mode keyboard answers globals
  | _ => false

/-- The message is a tick whose frame is drawn, whose checks find no hit, and that leaves no active
enemy. -/
def wins (mode : ModeInfo) (globals : Globals) : Receive → Bool
  | .hardware keyboard (some answers) =>
    drawsFrame mode (tickGlobals mode keyboard answers globals).arena &&
      !tickFindsHit mode keyboard answers globals &&
      countActiveEnemies (tickGlobals mode keyboard answers globals).arena = 0
  | _ => false

/-- The game has ended as a loss: GAME OVER comes next. -/
def EndsLost (after : Program) : Prop :=
  after.globals.playerLost = true ∧ after.globals.menu.currentState = .gameOver

/-- The game has ended as a win: its result comes next. -/
def EndsWon (after : Program) : Prop :=
  after.globals.playerWin = true ∧ after.globals.menu.currentState = .scores

/-- After a tick `player_lost` says what its checks found. -/
theorem InGame.playerLost_eq {globals : Globals} (inGame : InGame globals) (mode : ModeInfo)
    (keyboard : Option Ports) (answers : Answers) :
    (tickGlobals mode keyboard answers globals).playerLost =
      tickFindsHit mode keyboard answers globals := by
  have clear := (inGame.input mode keyboard).notLost
  show (tickArena mode ((gameInput mode keyboard globals).timerCounter + 1) answers.enemyRoll
    (gameInput mode keyboard globals).arena (gameInput mode keyboard globals).playerLost).2 = _
  rw [clear, gameInput_timerCounter]
  show ((false || bulletOnShip _) || alienOnShip (shoot _ false).1) = _
  rw [Bool.false_or]
  rfl

theorem InGame.loses_eq {globals : Globals} (inGame : InGame globals) (mode : ModeInfo)
    (keyboard : Option Ports) (answers : Answers) :
    loses mode globals (.hardware keyboard (some answers)) = true ↔
      tickOutcome mode (tickGlobals mode keyboard answers globals) = .lost := by
  have lost := inGame.playerLost_eq mode keyboard answers
  simp only [loses, Bool.and_eq_true, ← lost, tickOutcome]
  split
  · rename_i undrawn
    exact iff_of_false (fun both => undrawn both.1) fun same => by cases same
  rename_i drawn
  split
  · rename_i hit
    exact iff_of_true ⟨not_not.mp drawn, hit⟩ rfl
  · rename_i clear
    refine iff_of_false (fun both => clear both.2) ?_
    split
    · exact fun same => by cases same
    · exact fun same => by cases same

theorem InGame.wins_eq {globals : Globals} (inGame : InGame globals) (mode : ModeInfo)
    (keyboard : Option Ports) (answers : Answers) :
    wins mode globals (.hardware keyboard (some answers)) = true ↔
      tickOutcome mode (tickGlobals mode keyboard answers globals) = .won := by
  have lost := inGame.playerLost_eq mode keyboard answers
  simp only [wins, Bool.and_eq_true, Bool.not_eq_true', decide_eq_true_eq, ← lost, tickOutcome]
  split
  · rename_i undrawn
    exact iff_of_false (fun both => undrawn both.1.1) fun same => by cases same
  rename_i drawn
  split
  · rename_i hit
    refine iff_of_false (fun both => ?_) fun same => by cases same
    rw [both.1.2] at hit
    cases hit
  rename_i clear
  split
  · rename_i none
    exact iff_of_true ⟨⟨not_not.mp drawn, by simpa using clear⟩, none⟩ rfl
  · rename_i some
    exact iff_of_false (fun both => some both.2) fun same => by cases same

theorem gameStateLoop_flags (globals : Globals) :
    (gameStateLoop globals).globals.playerWin = globals.playerWin ∧
      (gameStateLoop globals).globals.playerLost = globals.playerLost ∧
      (gameStateLoop globals).globals.score.csv = globals.score.csv := by
  unfold gameStateLoop
  split
  · rw [menuHandlerLoop_globals]
    exact ⟨rfl, rfl, rfl⟩
  · exact ⟨rfl, rfl, rfl⟩

/-- ESC does not end a game as a loss or a win. -/
theorem not_ends_gameStateLoop {globals : Globals} (win : globals.playerWin = false)
    (lost : globals.playerLost = false) :
    ¬ EndsLost (gameStateLoop globals) ∧ ¬ EndsWon (gameStateLoop globals) := by
  have flags := gameStateLoop_flags globals
  rw [win, lost] at flags
  refine ⟨fun ends => ?_, fun ends => ?_⟩
  · rw [ends.1] at flags
    cases flags.2.1
  · rw [ends.1] at flags
    cases flags.1

/-- **What ends a game**: as a loss the drawn ticks that find the ship hit, as a win the drawn ticks that
find no hit and leave no enemy, and no other message. -/
theorem step_ends {mode : ModeInfo} {program : Program} (running : program.control = .gameState)
    (inGame : InGame program.globals) (receive : Receive) :
    (EndsLost (step mode program receive) ↔ loses mode program.globals receive = true) ∧
      (EndsWon (step mode program receive) ↔ wins mode program.globals receive = true) := by
  obtain ⟨control, globals⟩ := program
  cases running
  have goesOn {globals : Globals} (win : globals.playerWin = false)
      (lost : globals.playerLost = false) :
      (EndsLost (gameStateLoop globals) ↔ false = true) ∧
        (EndsWon (gameStateLoop globals) ↔ false = true) := by
    obtain ⟨notLost, notWon⟩ := not_ends_gameStateLoop win lost
    exact ⟨iff_of_false notLost Bool.false_ne_true, iff_of_false notWon Bool.false_ne_true⟩
  cases receive with
  | failed => exact goesOn inGame.notWon inGame.notLost
  | ignored => exact goesOn inGame.notWon inGame.notLost
  | hardware keyboard timer =>
    cases timer with
    | none => exact goesOn (inGame.input mode keyboard).notWon (inGame.input mode keyboard).notLost
    | some answers =>
      rw [inGame.loses_eq, inGame.wins_eq, step_tick rfl, finishTick_eq]
      obtain ⟨win, state, _, _⟩ := inGame.ticked mode keyboard answers
      cases outcome : tickOutcome mode (tickGlobals mode keyboard answers globals) with
      | undrawn =>
        refine ⟨iff_of_false (fun ends => ?_) (by decide), iff_of_false (fun ends => ?_) (by decide)⟩
        · exact absurd (ends.2.symm.trans state) (by decide)
        · exact absurd (ends.2.symm.trans state) (by decide)
      | lost =>
        have hit := (tickOutcome_lost_iff (by rw [outcome]; decide)).mp outcome
        refine ⟨iff_of_true ?_ rfl, iff_of_false (fun ends => ?_) (by decide)⟩
        · unfold EndsLost loseGame
          rw [menuHandlerLoop_globals]
          exact ⟨hit, rfl⟩
        · unfold EndsWon loseGame at ends
          rw [menuHandlerLoop_globals] at ends
          exact absurd (ends.1.symm.trans win) (by decide)
      | won =>
        refine ⟨iff_of_false (fun ends => ?_) (by decide), iff_of_true ?_ rfl⟩
        · unfold EndsLost winGame at ends
          rw [menuHandlerLoop_globals] at ends
          exact absurd ends.2 (by simp [menuSetState])
        · unfold EndsWon winGame
          rw [menuHandlerLoop_globals]
          exact ⟨rfl, rfl⟩
      | goesOn =>
        obtain ⟨notLost, notWon⟩ := not_ends_gameStateLoop win (tickOutcome_unhit (.inr outcome))
        exact ⟨iff_of_false notLost (by decide), iff_of_false notWon (by decide)⟩

/-! ### The file -/

/-- The file operations of a message succeed. -/
def Receive.FilesSucceed : Receive → Prop
  | .hardware _ (some answers) => answers.file = .success
  | _ => True

/-- The file with rows appended; the first one begins an absent file with the header. -/
def appendRows (csv : Option (List UInt8)) (entries : List HighScoreEntry) : Option (List UInt8) :=
  if entries = [] then csv else some (csv.getD csvHeader ++ (entries.map row).flatten)

theorem appendRows_append (csv : Option (List UInt8)) (first second : List HighScoreEntry) :
    appendRows (appendRows csv first) second = appendRows csv (first ++ second) := by
  unfold appendRows
  by_cases nothing : first = []
  · rw [nothing, if_pos rfl, List.nil_append]
  · rw [if_neg nothing, if_neg (List.append_ne_nil_of_left_ne_nil nothing _)]
    split
    · rename_i last
      rw [last, List.append_nil]
    · rw [Option.getD_some, List.map_append, List.flatten_append, List.append_assoc]

theorem saveHighscoreToCsv_csv (entry : HighScoreEntry) (csv : Option (List UInt8))
    (table : ScoreTable) :
    (saveHighscoreToCsv .success entry csv table).2.1 = appendRows csv [entry] := by
  have added : appendRows csv [entry] = some (csv.getD csvHeader ++ row entry) := by
    rw [appendRows, if_neg (List.cons_ne_nil _ _), List.map_singleton, List.flatten_singleton]
  rw [added]
  cases csv with
  | none => rfl
  | some file => rfl

/-- The row of a game that is won with these variables. -/
def winEntry (answers : Answers) (ticked : Globals) : HighScoreEntry where
  name := getRandomAnimeName answers.nameRoll
  score := scoreCalculateFinalReturn ticked.score
  bulletsFired := ticked.score.currentScore.bulletsFired
  gameTimeSeconds := ticked.score.currentScore.gameTimeSeconds

/-- The entry `save_win_highscore` makes of a score. -/
def savedEntry (roll : Nat) (score : Score) : HighScoreEntry :=
  ⟨getRandomAnimeName roll, score.currentScore.finalScore, score.currentScore.bulletsFired,
    score.currentScore.gameTimeSeconds⟩

theorem winEntry_eq (answers : Answers) (ticked : Globals) :
    winEntry answers ticked = savedEntry answers.nameRoll (scoreCalculateFinal ticked.score) := by
  obtain ⟨⟨fired, time⟩, _⟩ := scoreCalculateFinal_keeps ticked.score
  unfold winEntry savedEntry
  rw [fired, time]
  rfl

/-- A result that is not saved yet adds its row. -/
theorem saveWinHighscore_csv (roll : Nat) {score : Score}
    (unsaved : score.highscoreSavedThisGame = false) :
    (saveWinHighscore roll .success score).csv = appendRows score.csv [savedEntry roll score] := by
  unfold saveWinHighscore
  rw [if_neg (by rw [unsaved]; exact Bool.false_ne_true)]
  exact saveHighscoreToCsv_csv (savedEntry roll score) score.csv score.table

/-- The row of a message that ends a game as a win. -/
def winRow (mode : ModeInfo) (program : Program) : Receive → Option HighScoreEntry
  | .hardware keyboard (some answers) =>
    if program.control = .gameState ∧
        wins mode program.globals (.hardware keyboard (some answers)) = true then
      some (winEntry answers (tickGlobals mode keyboard answers program.globals))
    else none
  | _ => none

/-- The rows of a run. -/
def winRows (mode : ModeInfo) (csv : Option (List UInt8)) (messages : List Receive) :
    List HighScoreEntry :=
  Runs.outputs (step mode) (winRow mode) (start csv) messages

/-- The games won in a run. -/
def gamesWon (mode : ModeInfo) (csv : Option (List UInt8)) (messages : List Receive) : Nat :=
  Runs.total (step mode) (fun program receive =>
    if program.control = .gameState ∧ wins mode program.globals receive = true then 1 else 0)
    (start csv) messages

theorem winRows_length (mode : ModeInfo) (csv : Option (List UInt8)) (messages : List Receive) :
    (winRows mode csv messages).length = gamesWon mode csv messages := by
  unfold winRows gamesWon
  rw [Runs.outputs_length]
  congr
  funext program receive
  have none (receive : Receive) (idle : wins mode program.globals receive = false) :
      0 = if program.control = .gameState ∧ wins mode program.globals receive = true then 1 else 0 := by
    rw [if_neg (by rw [idle]; exact fun both => by cases both.2)]
  cases receive with
  | failed => exact none _ rfl
  | ignored => exact none _ rfl
  | hardware keyboard timer =>
    cases timer with
    | none => exact none _ rfl
    | some answers =>
      show (if _ then some _ else Option.none : Option HighScoreEntry).toList.length = _
      split
      · rfl
      · rfl

/-- **What a message to a running game does to the flags and to the file.** -/
theorem InGame.account {globals : Globals} (inGame : InGame globals) (mode : ModeInfo)
    (receive : Receive) :
    ¬ ((step mode ⟨.gameState, globals⟩ receive).globals.playerWin = true ∧
        (step mode ⟨.gameState, globals⟩ receive).globals.playerLost = true) ∧
      (receive.FilesSucceed → (step mode ⟨.gameState, globals⟩ receive).globals.score.csv =
        appendRows globals.score.csv (winRow mode ⟨.gameState, globals⟩ receive).toList) := by
  have goesOn {globals : Globals} (win : globals.playerWin = false) :
      ¬ ((gameStateLoop globals).globals.playerWin = true ∧
        (gameStateLoop globals).globals.playerLost = true) := by
    rw [(gameStateLoop_flags globals).1, win]
    exact fun both => by cases both.1
  cases receive with
  | failed => exact ⟨goesOn inGame.notWon, fun _ => (gameStateLoop_flags globals).2.2⟩
  | ignored => exact ⟨goesOn inGame.notWon, fun _ => (gameStateLoop_flags globals).2.2⟩
  | hardware keyboard timer =>
    cases timer with
    | none =>
      refine ⟨goesOn (inGame.input mode keyboard).notWon, fun _ => ?_⟩
      exact (gameStateLoop_flags _).2.2.trans (gameInput_flags mode keyboard globals).2.2.2.2
    | some answers =>
      obtain ⟨win, _, saved, csv⟩ := inGame.ticked mode keyboard answers
      have none (lasts : tickOutcome mode (tickGlobals mode keyboard answers globals) ≠ .won) :
          winRow mode ⟨.gameState, globals⟩ (.hardware keyboard (some answers)) = Option.none :=
        if_neg fun both => lasts ((inGame.wins_eq mode keyboard answers).mp both.2)
      rw [step_tick rfl, finishTick_eq]
      cases outcome : tickOutcome mode (tickGlobals mode keyboard answers globals) with
      | undrawn =>
        rw [none (by rw [outcome]; decide)]
        refine ⟨fun both => ?_, fun _ => csv⟩
        exact absurd (both.1.symm.trans win) (by decide)
      | lost =>
        rw [none (by rw [outcome]; decide)]
        unfold loseGame
        rw [menuHandlerLoop_globals]
        refine ⟨fun both => ?_, fun _ => (scoreCalculateFinal_keeps _).2.2.trans csv⟩
        exact absurd (both.1.symm.trans win) (by decide)
      | won =>
        have some_row : winRow mode ⟨.gameState, globals⟩ (.hardware keyboard (some answers)) =
            some (winEntry answers (tickGlobals mode keyboard answers globals)) :=
          if_pos ⟨rfl, (inGame.wins_eq mode keyboard answers).mpr outcome⟩
        rw [some_row]
        unfold winGame
        rw [menuHandlerLoop_globals]
        refine ⟨fun both => ?_, fun files => ?_⟩
        · exact absurd (both.2.symm.trans (tickOutcome_unhit (.inl outcome))) (by decide)
        · obtain ⟨_, saved', csv'⟩ := scoreCalculateFinal_keeps
            (tickGlobals mode keyboard answers globals).score
          change answers.file = .success at files
          show (saveWinHighscore answers.nameRoll answers.file _).csv = _
          rw [files, saveWinHighscore_csv _ (saved'.trans saved), csv', csv]
          exact congrArg (fun entry => appendRows globals.score.csv [entry])
            (winEntry_eq answers _).symm
      | goesOn =>
        rw [none (by rw [outcome]; decide)]
        exact ⟨goesOn win, fun _ => (gameStateLoop_flags _).2.2.trans csv⟩

/-! ### A game's own numbers -/

/-- The shots a message to a running game launches. -/
def shotsLaunched (program : Program) : Receive → Nat
  | .hardware (some ports) _ =>
    if kbcIh ports program.globals.scancode &&& kbBreakCode = 0 ∧
        launchesBullet (kbcIh ports program.globals.scancode) program.globals.arena = true then 1
    else 0
  | _ => 0

/-- The keyboard part of a message counts the shots it launches. -/
theorem bulletsFired_gameInput (mode : ModeInfo) (keyboard : Option Ports) (timer : Option Answers)
    {globals : Globals} (counting : globals.score.gameActive = true) :
    (gameInput mode keyboard globals).score.currentScore.bulletsFired =
      globals.score.currentScore.bulletsFired +
        shotsLaunched ⟨.gameState, globals⟩ (.hardware keyboard timer) := by
  cases keyboard with
  | none => exact (Int.add_zero _).symm
  | some ports =>
    by_cases launches : kbcIh ports globals.scancode &&& kbBreakCode = 0 ∧
        launchesBullet (kbcIh ports globals.scancode) globals.arena = true
    · have weight : shotsLaunched ⟨.gameState, globals⟩ (.hardware (some ports) timer) = 1 :=
        if_pos launches
      have input : (gameInput mode (some ports) globals).score = scoreAddBullet globals.score := by
        simp only [gameInput, Option.elim, gameKeyboard]
        rw [if_neg (not_not.mpr launches.1)]
        exact if_pos launches.2
      rw [weight, input, scoreAddBullet, if_pos counting]
      rfl
    · have weight : shotsLaunched ⟨.gameState, globals⟩ (.hardware (some ports) timer) = 0 :=
        if_neg launches
      have input : (gameInput mode (some ports) globals).score = globals.score := by
        simp only [gameInput, Option.elim, gameKeyboard]
        by_cases isBreak : kbcIh ports globals.scancode &&& kbBreakCode = 0
        · rw [if_neg (not_not.mpr isBreak)]
          exact if_neg fun fires => launches ⟨isBreak, fires⟩
        · rw [if_pos isBreak]
      rw [weight, input]
      exact (Int.add_zero _).symm

/-- The counters of a running game are those of its own messages. -/
structure Counts (shots ticks : Nat) (globals : Globals) : Prop where
  clock : Clock ticks globals
  fired : globals.score.currentScore.bulletsFired = shots

namespace Counts

variable {mode : ModeInfo} {shots ticks : Nat} {globals : Globals}

theorem input (counts : Counts shots ticks globals) (keyboard : Option Ports)
    (timer : Option Answers) :
    Counts (shots + shotsLaunched ⟨.gameState, globals⟩ (.hardware keyboard timer)) ticks
      (gameInput mode keyboard globals) := by
  refine ⟨(counts.clock.input keyboard).1, ?_⟩
  rw [bulletsFired_gameInput mode keyboard timer counts.clock.counting, counts.fired]
  exact (Int.natCast_add _ _).symm

theorem tick (counts : Counts shots ticks globals) (keyboard : Option Ports) (answers : Answers) :
    Counts (shots + shotsLaunched ⟨.gameState, globals⟩ (.hardware keyboard (some answers)))
      (ticks + 1) (tickGlobals mode keyboard answers globals) := by
  have pressed := @input mode _ _ _ counts keyboard (some answers)
  obtain ⟨clock, fired⟩ := @Clock.tick mode _ _ pressed.clock answers
  exact ⟨clock, fired.trans pressed.fired⟩

theorem message (counts : Counts shots ticks globals) {receive : Receive} :
    Counts (shots + shotsLaunched ⟨.gameState, globals⟩ receive) (ticks + receive.ticks)
      (messageGlobals mode globals receive) := by
  cases receive with
  | failed => exact counts
  | ignored => exact counts
  | hardware keyboard timer =>
    cases timer with
    | none => exact counts.input keyboard none
    | some answers => exact counts.tick keyboard answers

end Counts

/-- **The counters of a running game** are the totals over its own messages. -/
theorem counts_run {mode : ModeInfo} {opening : Program} (starts : GameStarts mode opening)
    {messages : List Receive} (plays : Plays mode opening messages)
    (running : (run mode opening messages).control = .gameState) :
    Counts (Runs.total (step mode) shotsLaunched opening messages)
      (Runs.total (step mode) (fun _ receive => receive.ticks) opening messages)
      (run mode opening messages).globals := by
  induction messages using List.reverseRecOn with
  | nil =>
    obtain ⟨globals, rfl⟩ := starts.eq_started
    exact ⟨clock_started mode globals, rfl⟩
  | append_singleton messages receive ih =>
    obtain ⟨before, plays, _⟩ := Runs.along_append.mp plays
    have counts := ih before plays
    rw [run, Runs.run_snoc] at running ⊢
    rw [step_goesOn plays running, Runs.total_append, Runs.total_append]
    have next := @Counts.message mode _ _ _ counts receive
    rw [← plays] at next
    exact next

/-! ### Over whole runs -/

/-- The flags of a lost and of a won game are never set together. -/
theorem never_both {mode : ModeInfo} {program : Program} (reached : Reachable mode program) :
    ¬ (program.globals.playerWin = true ∧ program.globals.playerLost = true) := by
  obtain ⟨csv, messages, rfl⟩ := reached
  induction messages using List.reverseRecOn with
  | nil =>
    show ¬ ((menuHandlerLoop (initGame csv)).globals.playerWin = true ∧ _)
    rw [menuHandlerLoop_globals]
    exact fun both => by cases both.1
  | append_singleton messages receive ih =>
    rw [run, Runs.run_snoc]
    by_cases running : (run mode (start csv) messages).control = .gameState
    · have account := ((inGame_of_reachable ⟨csv, messages, rfl⟩ running).account mode receive).1
      rwa [← running] at account
    · refine @Outside.step mode
        (fun globals => ¬ (globals.playerWin = true ∧ globals.playerLost = true)) ?_ _ running ih receive
      exact ⟨fun _ _ _ holds => holds, fun _ holds => holds, fun _ _ both => (by cases both.1),
        fun _ holds => holds, fun _ holds => holds, fun _ _ both => (by cases both.1)⟩

/-- Outside games no row is due. -/
theorem winRow_of_idle {mode : ModeInfo} {program : Program} (idle : program.control ≠ .gameState)
    (receive : Receive) : winRow mode program receive = none := by
  unfold winRow
  split
  · exact if_neg fun both => idle both.1
  · rfl

/-- Outside games the file stays as it is. -/
theorem csv_of_idle {mode : ModeInfo} {program : Program} (idle : program.control ≠ .gameState)
    (receive : Receive) :
    (step mode program receive).globals.score.csv = program.globals.score.csv := by
  refine @Outside.step mode (fun globals => globals.score.csv = program.globals.score.csv) ?_ _ idle
    rfl receive
  exact ⟨fun _ _ _ same => same, fun _ same => same, fun _ same => same, fun _ same => same,
    fun _ same => same, fun _ same => same⟩

/-- **The file after a run** is the one it found, with the rows of the games won. -/
theorem csv_run (mode : ModeInfo) (csv : Option (List UInt8)) {messages : List Receive}
    (files : ∀ receive ∈ messages, receive.FilesSucceed) :
    (run mode (start csv) messages).globals.score.csv = appendRows csv (winRows mode csv messages) := by
  have account := @Runs.run_recorded _ _ (step mode) _ (winRow mode)
    (fun rows program => Reachable mode program ∧ program.globals.score.csv = appendRows csv rows)
    (fun _ receive => receive.FilesSucceed) ?_ [] (start csv) ?_ messages (Runs.along_of_forall files)
  · exact account.2
  · rintro rows program receive ⟨reached, same⟩ succeed
    refine ⟨reached.step receive, ?_⟩
    rw [← appendRows_append, ← same]
    by_cases running : program.control = .gameState
    · have grows := ((inGame_of_reachable reached running).account mode receive).2 succeed
      rwa [← running] at grows
    · rw [winRow_of_idle running]
      exact csv_of_idle running receive
  · refine ⟨reachable_start mode csv, ?_⟩
    show (menuHandlerLoop (initGame csv)).globals.score.csv = _
    rw [menuHandlerLoop_globals]
    rfl

/-- A row carries the numbers of the game it is written for, whose last message is the one that
wins it. -/
structure OwnResult (mode : ModeInfo) (opening : Program) (messages : List Receive)
    (entry : HighScoreEntry) : Prop where
  bulletsFired : entry.bulletsFired = Runs.total (step mode) shotsLaunched opening messages
  gameTimeSeconds : entry.gameTimeSeconds =
    (Runs.total (step mode) (fun _ receive => receive.ticks) opening messages / 60 : Nat)
  score : entry.score = max 100 (10000 - 50 * entry.bulletsFired - 10 * entry.gameTimeSeconds)

theorem ownResult_winRow {mode : ModeInfo} {opening : Program} (starts : GameStarts mode opening)
    {messages : List Receive} (plays : Plays mode opening messages) {receive : Receive}
    {entry : HighScoreEntry} (won : winRow mode (run mode opening messages) receive = some entry) :
    OwnResult mode opening (messages ++ [receive]) entry := by
  have running : (run mode opening messages).control = .gameState := by
    by_contra idle
    rw [winRow_of_idle idle] at won
    cases won
  have counts := counts_run starts plays running
  cases receive with
  | failed => cases won
  | ignored => cases won
  | hardware keyboard timer =>
    cases timer with
    | none => cases won
    | some answers =>
      have ticked := @Counts.tick mode _ _ _ counts keyboard answers
      obtain rfl : winEntry answers
          (tickGlobals mode keyboard answers (run mode opening messages).globals) = entry := by
        change (if _ then _ else _) = _ at won
        split at won
        · exact Option.some.inj won
        · cases won
      refine ⟨?_, ?_, scoreCalculateFinalReturn_eq ticked.clock.counting⟩
      · rw [Runs.total_append]
        refine ticked.fired.trans ?_
        rw [← running]
        rfl
      · rw [Runs.total_append]
        exact ticked.clock.time

/-- The enemies after a tick that faces the formation. -/
theorem Facing.tick_enemies {formation : Formation} {moveTimer x : Int} {arena : Arena}
    (facing : Facing formation moveTimer x arena) {timer : Nat} (firing : Firing timer arena)
    {roll : Nat} (aims : (formation.tick moveTimer).1.AimsBetween roll) :
    (SpaceInvaders.tickArena mode14C (timer + 1) roll arena false).1.enemies =
        (formation.tick moveTimer).1.enemies ∧
      (shoot (SpaceInvaders.advance mode14C (timer + 1) roll arena) false).1.enemies =
        (formation.tick moveTimer).1.enemies ∧
      (shoot (SpaceInvaders.advance mode14C (timer + 1) roll arena) false).1.x = x := by
  have moved := facing.advance firing aims
  have noShot : checkBulletEnemyCollision (checkEnemyBulletCollision
      (SpaceInvaders.advance mode14C (timer + 1) roll arena) false).1 =
      (checkEnemyBulletCollision (SpaceInvaders.advance mode14C (timer + 1) roll arena) false).1 :=
    checkBulletEnemyCollision_of_idle moved.silent
  have shot : (shoot (SpaceInvaders.advance mode14C (timer + 1) roll arena) false).1 =
      (checkEnemyBulletCollision (SpaceInvaders.advance mode14C (timer + 1) roll arena) false).1 :=
    noShot
  refine ⟨?_, ?_, ?_⟩
  · rw [tickArena_fst, noShot]
    exact moved.enemies_eq
  · rw [shot]
    exact moved.enemies_eq
  · rw [shot]
    exact moved.ship

/-- **A tick that finds an alien on the ship and cannot be drawn**: some row meets the ship while the
lowest is below the screen. -/
theorem Faces.hit_below {formation : Formation} {moveTimer x : Int} {program : Program}
    (faces : Faces formation moveTimer x program) {roll : Nat}
    (aims : (formation.tick moveTimer).1.AimsBetween roll) {enemy : Enemy}
    (member : enemy ∈ (formation.tick moveTimer).1.enemies) (hits : shipHitsEnemy x enemy = true)
    (below : 620 < (formation.tick moveTimer).1.dy) (short : (formation.tick moveTimer).1.dy < 65000) :
    tickFindsHit mode14C none ⟨roll, 0, .success⟩ program.globals = true ∧
      drawsFrame mode14C (tickGlobals mode14C none ⟨roll, 0, .success⟩ program.globals).arena =
        false := by
  have firing := (fire_invariant.reachable faces.reached).2 faces.running
  obtain ⟨after, shot, ship⟩ := faces.field.tick_enemies firing aims
  constructor
  · show (_ || alienOnShip _) = true
    rw [Bool.or_eq_true, alienOnShip, List.any_eq_true]
    refine .inr ⟨enemy, shot ▸ member, ?_⟩
    rw [Bool.and_eq_true]
    exact ⟨(Formation.mem_enemies member).1, ship ▸ hits⟩
  · have ticked : (tickGlobals mode14C none ⟨roll, 0, .success⟩ program.globals).arena =
        (SpaceInvaders.tickArena mode14C (program.globals.timerCounter + 1) roll
          program.globals.arena program.globals.playerLost).1 := rfl
    rw [ticked, faces.unhurt]
    have last := (formation.tick moveTimer).1.last_mem
    rw [← after] at last
    exact drawsFrame_of_below last rfl (by show 864 < 210 + _ + 34; omega)
      (by show 210 + (formation.tick moveTimer).1.dy < 65536; omega)

/-- The formation has sunk so far that its next drop leads below the screen, and the ship has moved below
its last column. -/
def sunkenRun : List Receive :=
  [press kbEnter, timerTick 0] ++ List.replicate 17 (press kbD) ++ crossing opening 491 ++
    List.replicate 29 (timerTick 3) ++ List.replicate 11 (press kbA)

theorem faces_sunken : Faces ⟨-80, 600, 1, true⟩ 29 530 (run mode14C (start none) sunkenRun) := by
  have first : Faces opening 0 opening.berth
      (run mode14C (start none) ([press kbEnter, timerTick 0] ++ List.replicate 17 (press kbD))) := by
    rw [run_append]
    exact faces_opening.right 17 (by omega) (by omega)
  have sunk := faces_crossing onCourse_opening first (n := 491) (by rw [sinking])
  have course := onCourse_iterate onCourse_opening 491
  rw [sinking] at sunk course
  have ready := sunk.before_move course (by decide)
  have keys : (⟨-80, 600, 1, true⟩ : Formation).passing ++
      List.replicate 29 (timerTick (⟨-80, 600, 1, true⟩ : Formation).aim) =
        List.replicate 29 (timerTick 3) := rfl
  rw [keys] at ready
  have below := ready.left 11 (by decide) (by decide)
  rw [sunkenRun, run_append, run_append, run_append]
  exact below

end SpaceInvaders
