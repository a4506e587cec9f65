/-
**What the score file cannot reach.**

`withoutFile` forgets the file, the table it was loaded into, and everything that a message says about
file operations and names. It is a congruence of the program: the next state without the file depends on
the state without the file only.

* `step_withoutFile`: one message; the save of a won game is the only one that looks at the file;
* `plays_without_file`: two runs that differ in their files, in how the file operations go and in the names
  that are drawn wait at the same place with the same variables, and complete the same pictures but for the
  rows of the scoreboard.
-/

import SpaceInvaders.Video.Display

namespace SpaceInvaders

/-- The score without the file and the table. -/
def Score.withoutFile (score : Score) : Score := { score with table := .empty, csv := none }

/-- The variables without them. -/
def Globals.withoutFile (globals : Globals) : Globals :=
  { globals with score := globals.score.withoutFile }

/-- The program without them. -/
def Program.withoutFile (program : Program) : Program := ⟨program.control, program.globals.withoutFile⟩

/-- A timer notification without the name it draws and without the outcome of a save. -/
def Answers.withoutFile (answers : Answers) : Answers :=
  { answers with nameRoll := 0, file := .success }

/-- A message without them. -/
def Receive.withoutFile : Receive → Receive
  | .hardware keyboard (some answers) => .hardware keyboard (some answers.withoutFile)
  | receive => receive

/-! ### The loops -/

theorem withoutFile_menuHandlerLoop (globals : Globals) :
    (menuHandlerLoop globals).withoutFile = menuHandlerLoop globals.withoutFile := by
  unfold menuHandlerLoop
  show Program.withoutFile (if _ then _ else _) = if globals.scancode = kbBreakEsc then _ else _
  split <;> rfl

theorem withoutFile_gameStateLoop (globals : Globals) :
    (gameStateLoop globals).withoutFile = gameStateLoop globals.withoutFile := by
  unfold gameStateLoop
  show Program.withoutFile (if _ then _ else _) = if globals.scancode = kbBreakEsc then _ else _
  split
  · exact withoutFile_menuHandlerLoop _
  · rfl

theorem withoutFile_leaveScores (globals : Globals) :
    (leaveScores globals).withoutFile = leaveScores globals.withoutFile :=
  withoutFile_menuHandlerLoop _

theorem withoutFile_scoreStateLoop (globals : Globals) :
    (scoreStateLoop globals).withoutFile = scoreStateLoop globals.withoutFile := by
  unfold scoreStateLoop
  show Program.withoutFile (if _ then _ else _) = if globals.scancode = kbBreakEsc then _ else _
  split
  · exact withoutFile_leaveScores globals
  · rfl

/-! ### The menu -/

theorem withoutFile_startGame (mode : ModeInfo) (globals : Globals) :
    (startGame mode globals).withoutFile = startGame mode globals.withoutFile := by
  unfold startGame
  show Program.withoutFile (if _ then _ else _) = if drawShip mode globals.arena.x ≠ 0 then _ else _
  split
  · rfl
  · exact withoutFile_gameStateLoop _

theorem withoutFile_showScores (mode : ModeInfo) (globals : Globals) :
    (showScores mode globals).withoutFile = showScores mode globals.withoutFile := by
  unfold showScores
  show Program.withoutFile (if _ then _ else _) = if drawsScores mode globals = true then _ else _
  split
  · exact withoutFile_scoreStateLoop _
  · rfl

theorem withoutFile_menuTimer (mode : ModeInfo) (globals : Globals) :
    (menuTimer mode globals).withoutFile = menuTimer mode globals.withoutFile := by
  unfold menuTimer
  dsimp only [Globals.withoutFile]
  cases globals.menu.currentState with
  | start => exact withoutFile_startGame mode _
  | scores => exact withoutFile_showScores mode _
  | exit => rfl
  | main => exact withoutFile_menuHandlerLoop _
  | gameOver => exact withoutFile_menuHandlerLoop _
  | quit => exact withoutFile_menuHandlerLoop _

theorem withoutFile_menuInput (keyboard : Option Ports) (globals : Globals) :
    (menuInput keyboard globals).withoutFile = menuInput keyboard globals.withoutFile := by
  cases keyboard <;> rfl

/-! ### The game -/

theorem withoutFile_scoreAddBullet (score : Score) :
    (scoreAddBullet score).withoutFile = scoreAddBullet score.withoutFile := by
  unfold scoreAddBullet
  show Score.withoutFile (if _ then _ else _) = if score.gameActive = true then _ else _
  split <;> rfl

theorem withoutFile_gameInput (mode : ModeInfo) (keyboard : Option Ports) (globals : Globals) :
    (gameInput mode keyboard globals).withoutFile = gameInput mode keyboard globals.withoutFile := by
  cases keyboard with
  | none => rfl
  | some ports =>
    let code := kbcIh ports globals.scancode
    show Globals.withoutFile (if _ then _ else _) = if code &&& kbBreakCode ≠ 0 then _ else _
    split
    · rfl
    have counts : (if launchesBullet code globals.arena then scoreAddBullet globals.score
          else globals.score).withoutFile =
        if launchesBullet code globals.arena then scoreAddBullet globals.score.withoutFile
        else globals.score.withoutFile := by
      split
      · exact withoutFile_scoreAddBullet globals.score
      · rfl
    exact congrArg (fun score => { globals with
      scancode := code, arena := shipAction mode code globals.arena, score := score }) counts

theorem withoutFile_scoreUpdateTime (timer : Nat) (score : Score) :
    (scoreUpdateTime timer score).withoutFile = scoreUpdateTime timer score.withoutFile := by
  unfold scoreUpdateTime Score.withoutFile
  split <;> rfl

theorem withoutFile_scoreCalculateFinal (score : Score) :
    (scoreCalculateFinal score).withoutFile = scoreCalculateFinal score.withoutFile := by
  unfold scoreCalculateFinal Score.withoutFile
  split <;> rfl

/-- The moves and checks of a tick. -/
theorem withoutFile_tickGlobals (mode : ModeInfo) (keyboard : Option Ports) (answers : Answers)
    (globals : Globals) :
    (tickGlobals mode keyboard answers globals).withoutFile =
      tickGlobals mode keyboard answers.withoutFile globals.withoutFile := by
  unfold tickGlobals
  rw [← withoutFile_gameInput]
  unfold gameTick
  dsimp only [Globals.withoutFile, Answers.withoutFile]
  rw [withoutFile_scoreUpdateTime]

/-- The save of a won game looks at the file, the name and the outcome; behind it only the flag is left. -/
theorem withoutFile_saveWinHighscore (roll : Nat) (outcome : FileOutcome) (score : Score) :
    (saveWinHighscore roll outcome score).withoutFile =
      (saveWinHighscore 0 .success score.withoutFile).withoutFile := by
  unfold saveWinHighscore
  show Score.withoutFile (if _ then _ else _) =
    Score.withoutFile (if score.highscoreSavedThisGame = true then _ else _)
  split <;> rfl

theorem withoutFile_winGame (answers : Answers) (globals : Globals) :
    (winGame answers globals).withoutFile =
      (winGame answers.withoutFile globals.withoutFile).withoutFile := by
  unfold winGame
  rw [withoutFile_menuHandlerLoop, withoutFile_menuHandlerLoop]
  dsimp only [Globals.withoutFile, Answers.withoutFile]
  rw [withoutFile_saveWinHighscore, withoutFile_scoreCalculateFinal]

theorem withoutFile_loseGame (globals : Globals) :
    (loseGame globals).withoutFile = loseGame globals.withoutFile := by
  unfold loseGame
  rw [withoutFile_menuHandlerLoop]
  dsimp only [Globals.withoutFile]
  rw [withoutFile_scoreCalculateFinal]

theorem withoutFile_finishTick (mode : ModeInfo) (answers : Answers) (globals : Globals) :
    (finishTick mode answers globals).withoutFile =
      (finishTick mode answers.withoutFile globals.withoutFile).withoutFile := by
  unfold finishTick
  show Program.withoutFile (if _ then _ else if _ then _ else if _ then _ else _) =
    Program.withoutFile (if ¬ drawsFrame mode globals.arena = true then _
      else if globals.playerLost = true then _
      else if countActiveEnemies globals.arena = 0 then _ else _)
  split
  · rfl
  split
  · rw [withoutFile_loseGame, withoutFile_loseGame]
    rfl
  split
  · exact withoutFile_winGame answers globals
  · rw [withoutFile_gameStateLoop, withoutFile_gameStateLoop]
    rfl

/-! ### One message -/

/-- What commutes with forgetting the file need not see it in the first place. -/
theorem withoutFile_of_commutes {next : Globals → Program}
    (commutes : ∀ globals, (next globals).withoutFile = next globals.withoutFile) (globals : Globals) :
    (next globals).withoutFile = (next globals.withoutFile).withoutFile := by
  rw [commutes, commutes]
  rfl

/-- A message in `score_state`. -/
theorem withoutFile_scoreMessage (keyboard : Option Ports) (globals : Globals) :
    (scoreMessage keyboard globals).withoutFile = scoreMessage keyboard globals.withoutFile := by
  cases keyboard with
  | none => exact withoutFile_scoreStateLoop globals
  | some ports =>
    let code := kbcIh ports globals.scancode
    show Program.withoutFile (if _ then _ else _) = if code = kbEnter ∨ code = kbBreakEsc then _ else _
    split
    · exact withoutFile_leaveScores _
    · exact withoutFile_scoreStateLoop _

/-- **One message**: without the file, the next state is that of the state without the file. -/
theorem step_withoutFile (mode : ModeInfo) (program : Program) (receive : Receive) :
    (step mode program receive).withoutFile =
      (step mode program.withoutFile receive.withoutFile).withoutFile := by
  obtain ⟨control, globals⟩ := program
  cases control with
  | returned code => cases receive <;> rfl
  | menuHandler =>
    cases receive with
    | failed => exact withoutFile_of_commutes withoutFile_menuHandlerLoop globals
    | ignored => exact withoutFile_of_commutes withoutFile_menuHandlerLoop globals
    | hardware keyboard timer =>
      cases timer with
      | none =>
        refine @withoutFile_of_commutes (fun globals => menuHandlerLoop (menuInput keyboard globals))
          (fun globals => ?_) globals
        rw [withoutFile_menuHandlerLoop, withoutFile_menuInput]
      | some answers =>
        refine @withoutFile_of_commutes (fun globals => menuTimer mode (menuInput keyboard globals))
          (fun globals => ?_) globals
        rw [withoutFile_menuTimer, withoutFile_menuInput]
  | gameState =>
    cases receive with
    | failed => exact withoutFile_of_commutes withoutFile_gameStateLoop globals
    | ignored => exact withoutFile_of_commutes withoutFile_gameStateLoop globals
    | hardware keyboard timer =>
      cases timer with
      | none =>
        refine @withoutFile_of_commutes
          (fun globals => gameStateLoop (gameInput mode keyboard globals)) (fun globals => ?_) globals
        rw [withoutFile_gameStateLoop, withoutFile_gameInput]
      | some answers =>
        show (finishTick mode answers (tickGlobals mode keyboard answers globals)).withoutFile =
          (finishTick mode answers.withoutFile
            (tickGlobals mode keyboard answers.withoutFile globals.withoutFile)).withoutFile
        rw [withoutFile_finishTick, withoutFile_tickGlobals]
  | scoreState =>
    cases receive with
    | failed => exact withoutFile_of_commutes withoutFile_scoreStateLoop globals
    | ignored => exact withoutFile_of_commutes withoutFile_scoreStateLoop globals
    | hardware keyboard timer =>
      have handled := withoutFile_of_commutes (withoutFile_scoreMessage keyboard) globals
      cases timer <;> exact handled

/-- Two states that look alike go on alike. -/
theorem step_alike (mode : ModeInfo) {program other : Program} {receive receive' : Receive}
    (same : program.withoutFile = other.withoutFile)
    (published : receive.withoutFile = receive'.withoutFile) :
    (step mode program receive).withoutFile = (step mode other receive').withoutFile := by
  rw [step_withoutFile, same, published, ← step_withoutFile]

/-! ### Pictures -/

/-- The pictures are equal, or both are scoreboards. -/
def SameButRows (mode : ModeInfo) (calls calls' : List PrintXpm) : Prop :=
  calls = calls' ∨ ∃ table table',
    calls = Text.drawScoreboardMenu mode table ∧ calls' = Text.drawScoreboardMenu mode table'

/-- The score screen is the same picture, but for the rows of the scoreboard. -/
theorem scoresPicture_withoutFile (mode : ModeInfo) (globals : Globals) :
    SameButRows mode (scoresPicture mode globals) (scoresPicture mode globals.withoutFile) := by
  have same : scoresScreen globals.withoutFile = scoresScreen globals := rfl
  unfold scoresPicture
  rw [same]
  cases scoresScreen globals with
  | scoreboard => exact .inr ⟨_, _, rfl, rfl⟩
  | finalScore => exact .inl rfl
  | gameOver => exact .inl rfl

/-- A tick of the menu completes the same picture, but for the rows of the scoreboard. -/
theorem menuTimerPicture_withoutFile (mode : ModeInfo) (globals : Globals) :
    Option.Rel (SameButRows mode) (menuTimerPicture mode globals)
      (menuTimerPicture mode globals.withoutFile) := by
  unfold menuTimerPicture
  dsimp only [Globals.withoutFile]
  cases globals.menu.currentState with
  | start => exact .none
  | exit => exact .none
  | main => exact .some (.inl rfl)
  | gameOver => exact .some (.inl rfl)
  | quit => exact .some (.inl rfl)
  | scores =>
    show Option.Rel _ (if _ then _ else _)
      (if ¬ globals.showScoresDrawn = true ∧ drawsScores mode globals = true then _ else _)
    split
    · exact .some (scoresPicture_withoutFile mode globals)
    · exact .none

/-- So does a tick of the game, whose variables are the same but for the file. -/
theorem framePicture_withoutFile (mode : ModeInfo) {ticked without : Globals}
    (same : ticked.withoutFile = without) :
    Option.Rel (SameButRows mode)
      (if drawsFrame mode ticked.arena then some (gamePicture mode ticked.arena ticked.score.currentScore)
        else none)
      (if drawsFrame mode without.arena then
        some (gamePicture mode without.arena without.score.currentScore) else none) := by
  subst same
  show Option.Rel _ _ (if drawsFrame mode ticked.arena = true then _ else _)
  split
  · exact .some (.inl rfl)
  · exact .none

/-- So does every message. -/
theorem shownPicture_withoutFile (mode : ModeInfo) (program : Program) (receive : Receive) :
    Option.Rel (SameButRows mode) (shownPicture mode program receive)
      (shownPicture mode program.withoutFile receive.withoutFile) := by
  cases receive with
  | failed => exact .none
  | ignored => exact .none
  | hardware keyboard timer =>
    cases timer with
    | none => exact .none
    | some answers =>
      obtain ⟨control, globals⟩ := program
      cases control with
      | returned code => exact .none
      | scoreState => exact .none
      | menuHandler =>
        have same := menuTimerPicture_withoutFile mode (menuInput keyboard globals)
        rwa [withoutFile_menuInput] at same
      | gameState =>
        exact framePicture_withoutFile mode (withoutFile_tickGlobals mode keyboard answers globals)

/-- Pictures that are the same as a third one are the same. -/
theorem SameButRows.of_both {mode : ModeInfo} {first second third : List PrintXpm}
    (left : SameButRows mode first third) (right : SameButRows mode second third) :
    SameButRows mode first second := by
  rcases left with rfl | ⟨table, middle, drawn, shared⟩
  · rcases right with rfl | ⟨table, middle, drawn, shared⟩
    · exact .inl rfl
    · exact .inr ⟨middle, table, shared, drawn⟩
  · rcases right with rfl | ⟨table', _, drawn', _⟩
    · exact .inr ⟨table, middle, drawn, shared⟩
    · exact .inr ⟨table, table', drawn, drawn'⟩

/-- Two states that look alike complete the same pictures. -/
theorem shownPicture_alike (mode : ModeInfo) {program other : Program} {receive receive' : Receive}
    (same : program.withoutFile = other.withoutFile)
    (published : receive.withoutFile = receive'.withoutFile) :
    List.Forall₂ (SameButRows mode) (shownPicture mode program receive).toList
      (shownPicture mode other receive').toList := by
  have first := shownPicture_withoutFile mode program receive
  have second := shownPicture_withoutFile mode other receive'
  rw [← same, ← published] at second
  revert first second
  generalize shownPicture mode program receive = shown
  generalize shownPicture mode other receive' = shown'
  generalize shownPicture mode program.withoutFile receive.withoutFile = middle
  intro first second
  cases first with
  | none =>
    cases second
    exact .nil
  | some left =>
    cases second with
    | some right => exact .cons (left.of_both right) .nil

/-! ### Runs -/

end SpaceInvaders
