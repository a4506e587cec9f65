/-
**The score of a game**: the first half of `score.c`.

`timer_counter` only counts up from 0, so it and `game_start_time` are natural numbers.
-/

import SpaceInvaders.Model.HighScores

namespace SpaceInvaders

/-- The struct `GameScore`. -/
structure GameScore where
  bulletsFired : Int
  gameTimeSeconds : Int
  finalScore : Int
deriving DecidableEq

/-- The global variables of `score.c`, and the file it writes. -/
structure Score where
  currentScore : GameScore
  gameStartTime : Nat
  gameActive : Bool
  highscoreSavedThisGame : Bool
  table : ScoreTable
  csv : Option (List UInt8)

/-- The values when the program starts, with a file it finds. -/
def Score.initial (csv : Option (List UInt8)) : Score where
  currentScore := ⟨0, 0, 0⟩
  gameStartTime := 0
  gameActive := false
  highscoreSavedThisGame := false
  table := .empty
  csv := csv

/-- The function `score_init`. -/
def scoreInit (timerCounter : Nat) (score : Score) : Score :=
  { score with
    currentScore := ⟨0, 0, 0⟩
    gameStartTime := timerCounter
    gameActive := true
    highscoreSavedThisGame := false }

/-- The function `score_add_bullet`. -/
def scoreAddBullet (score : Score) : Score :=
  if score.gameActive then
    { score with
      currentScore :=
        { score.currentScore with bulletsFired := score.currentScore.bulletsFired + 1 } }
  else score

/-- The function `score_update_time`. -/
def scoreUpdateTime (timerTicks : Nat) (score : Score) : Score :=
  if score.gameActive then
    { score with
      currentScore :=
        { score.currentScore with
          gameTimeSeconds := ((timerTicks : Int) - score.gameStartTime).tdiv 60 } }
  else score

/-- The function `score_calculate_final`, without its return value, which no caller reads. -/
def scoreCalculateFinal (score : Score) : Score :=
  if score.gameActive then
    let bulletPenalty := score.currentScore.bulletsFired * 50
    let timePenalty := score.currentScore.gameTimeSeconds * 10
    let finalScore := 10000 - bulletPenalty - timePenalty
    { score with
      currentScore :=
        { score.currentScore with finalScore := if finalScore < 100 then 100 else finalScore }
      gameActive := false }
  else score

/-- The return value of `score_calculate_final`: both of its returns give `final_score`. -/
def scoreCalculateFinalReturn (score : Score) : Int :=
  (scoreCalculateFinal score).currentScore.finalScore

/-- The three numbers `draw_live_score` shows. -/
structure LiveScore where
  score : Int
  time : Int
  shots : Int
deriving DecidableEq

/-- The numbers of `draw_live_score`, without their places on the screen. -/
def drawLiveScore (current : GameScore) : LiveScore :=
  let bulletPenalty := current.bulletsFired * 50
  let timePenalty := current.gameTimeSeconds * 10
  let liveScore := 10000 - bulletPenalty - timePenalty
  { score := if liveScore < 100 then 100 else liveScore
    time := current.gameTimeSeconds
    shots := current.bulletsFired }

/-- The function `score_reset`. -/
def scoreReset (score : Score) : Score :=
  { score with
    currentScore := ⟨0, 0, 0⟩
    gameStartTime := 0
    gameActive := false
    highscoreSavedThisGame := false }

/-- The array `anime_names`. -/
def animeNames : List String :=
  ["MUGEN", "JIN", "FUU", "SARA", "SHIREN", "YUKIMARU", "KOZA", "UMANOSUKE", "KARIYA", "OKURU",
    "SPIKE", "JET", "FAYE", "EDWARD", "VICIOUS", "JULIA", "GREN", "PIERCE", "RHINT", "ASIMOV",
    "KATERINA", "ROCO", "MILES", "ZEBRA", "RASHID", "UDAI"]

/-- The function `get_random_anime_name`; `roll` is the value `rand()` returns. -/
def getRandomAnimeName (roll : Nat) : List UInt8 :=
  bytes (animeNames.getD (roll % animeNames.length) "")

/-- The function `save_win_highscore`. -/
def saveWinHighscore (roll : Nat) (outcome : FileOutcome) (score : Score) : Score :=
  if score.highscoreSavedThisGame then score
  else
    let entry : HighScoreEntry :=
      ⟨getRandomAnimeName roll, score.currentScore.finalScore, score.currentScore.bulletsFired,
        score.currentScore.gameTimeSeconds⟩
    let (_, csv, table) := saveHighscoreToCsv outcome entry score.csv score.table
    { score with csv := csv, table := table, highscoreSavedThisGame := true }

end SpaceInvaders
