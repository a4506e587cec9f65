/-
**What the player can read.**

The counters of a game and the results of the games that reach the score table are small enough for the
places that the drawing functions give them, so that no text is written over another one.

* `live_score_readable`: the score, the time and the shots, on every frame of every game;
* `scoreboard_readable`: the best eight results, in every run of the program.
-/

import SpaceInvaders.Game.Saves
import SpaceInvaders.Game.ScoreScreens
import SpaceInvaders.Video.Writing

namespace SpaceInvaders

open Text Display BackBuffer

/-! ### A label and a number -/

/-- The writings of `draw_label_and_number`. -/
def labelled (label : List UInt8) (number x y : Int) : List Writing :=
  [⟨false, label, x, y⟩, ⟨true, Decimal.integer number, x + calculateTextWidth label, y⟩]

theorem drawLabelAndNumber_eq (label : List UInt8) (number x y : Int) :
    drawLabelAndNumber label number x y = (labelled label number x y).flatMap Writing.calls := by
  rw [drawLabelAndNumber, Writing.drawNumber_eq, labelled, List.flatMap_cons, List.flatMap_cons]
  exact congrArg _ (List.append_nil _).symm

/-- The place `start_x` of `draw_label_and_number_centered`. -/
def centeredX (label : List UInt8) (number centerX : Int) : Int :=
  centerX - (calculateTextWidth label + calculateTextWidth (Decimal.integer number)).tdiv 2

/-- A centered text begins half its width before the center. -/
theorem centeredX_bounds (label : List UInt8) (number centerX : Int) :
    2 * centeredX label number centerX ≤
        2 * centerX - 22 * label.length - 22 * (Decimal.integer number).length + 1 ∧
      2 * centerX - 22 * label.length - 22 * (Decimal.integer number).length ≤
        2 * centeredX label number centerX := by
  unfold centeredX calculateTextWidth charSpacing
  rw [Int.tdiv_eq_ediv_of_nonneg (by omega)]
  omega

theorem drawLabelAndNumberCentered_eq (label : List UInt8) (number centerX y : Int) :
    drawLabelAndNumberCentered label number centerX y =
      (labelled label number (centeredX label number centerX) y).flatMap Writing.calls :=
  drawLabelAndNumber_eq label number (centeredX label number centerX) y

/-- They are in a line. -/
theorem labelled_inLine (label : List UInt8) (number x y : Int) {left right : Int} (start : left ≤ x)
    (ends : x + 22 * label.length + 22 * (Decimal.integer number).length ≤ right) :
    Writing.InLine y left right (labelled label number x y) := by
  refine ⟨rfl, start, rfl, le_rfl, ?_⟩
  show Writing.right _ ≤ right
  rw [Writing.right_eq]
  refine le_trans (le_of_eq ?_) ends
  show x + label.length * charSpacing + _ = _
  rw [mul_comm (label.length : Int)]
  rfl

/-! ### The live score -/

/-- The writings of `draw_live_score`. -/
def liveWritings (mode : ModeInfo) (current : GameScore) : List Writing :=
  let live := SpaceInvaders.drawLiveScore current
  labelled (bytes "SCORE ") live.score 20 20 ++
    labelled (bytes "TIME ") live.time (centeredX (bytes "TIME ") live.time (mode.width.tdiv 2)) 20 ++
    labelled (bytes "SHOTS ") live.shots (shotsX mode live.shots) 20

theorem drawLiveScore_eq (mode : ModeInfo) (current : GameScore) :
    Text.drawLiveScore mode current = (liveWritings mode current).flatMap Writing.calls := by
  rw [Text.drawLiveScore, liveWritings, List.flatMap_append, List.flatMap_append,
    ← drawLabelAndNumberCentered_eq, ← drawLabelAndNumber_eq, ← drawLabelAndNumber_eq]

/-- The writings of the live score are beside one another. -/
theorem liveWritings_beside {current : GameScore} (fired : 0 ≤ current.bulletsFired)
    (shots : current.bulletsFired ≤ 1117) (time : 0 ≤ current.gameTimeSeconds)
    (seconds : current.gameTimeSeconds ≤ 558) :
    (∀ writing ∈ liveWritings mode14C current, writing.OnScreen mode14C) ∧
      (liveWritings mode14C current).Pairwise Writing.Beside := by
  have scoreLength : (Decimal.integer (SpaceInvaders.drawLiveScore current).score).length ≤ 5 := by
    rw [drawLiveScore_score]
    obtain ⟨low, high⟩ := scoreOf_bounds fired time
    exact Decimal.integer_length_of_nonneg (by decide) (by omega) (by omega)
  have timeLength : (Decimal.integer current.gameTimeSeconds).length ≤ 3 :=
    Decimal.integer_length_of_nonneg (by decide) time (by omega)
  have shotsLength : (Decimal.integer current.bulletsFired).length ≤ 4 :=
    Decimal.integer_length_of_nonneg (by decide) fired (by omega)
  have scoreLine : Writing.InLine 20 20 262
      (labelled (bytes "SCORE ") (SpaceInvaders.drawLiveScore current).score 20 20) := by
    have label : (bytes "SCORE ").length = 6 := rfl
    exact labelled_inLine _ _ _ _ le_rfl (by omega)
  have timeLine : Writing.InLine 20 262 900
      (labelled (bytes "TIME ") current.gameTimeSeconds
        (centeredX (bytes "TIME ") current.gameTimeSeconds (mode14C.width.tdiv 2)) 20) := by
    have label : (bytes "TIME ").length = 5 := rfl
    have place := centeredX_bounds (bytes "TIME ") current.gameTimeSeconds (mode14C.width.tdiv 2)
    have center : mode14C.width.tdiv 2 = 576 := rfl
    exact labelled_inLine _ _ _ _ (by omega) (by omega)
  have shotsLine : Writing.InLine 20 900 1132
      (labelled (bytes "SHOTS ") current.bulletsFired (shotsX mode14C current.bulletsFired) 20) := by
    have label : (bytes "SHOTS ").length = 6 := rfl
    have place : shotsX mode14C current.bulletsFired =
        1000 - 22 * (Decimal.integer current.bulletsFired).length := by
      show (1152 : Int) - (132 + (Decimal.integer current.bulletsFired).length * 22) - 20 = _
      omega
    exact labelled_inLine _ _ _ _ (by omega) (by omega)
  have line : Writing.InLine 20 20 1132 (liveWritings mode14C current) :=
    (scoreLine.append timeLine).append shotsLine
  have block : Writing.Block mode14C 0 864 (liveWritings mode14C current) :=
    .of_line line (by decide) (by decide) (by decide) (by decide)
  exact ⟨block.onScreen le_rfl le_rfl, block.beside⟩

/-- **The live score can be read.** On every frame that a tick of a game completes, the video memory shows
the live score, the seconds and the shots, each digit and each letter in its own cell and nothing over it,
whatever the formation, the bullets and the shields do below. -/
theorem live_score_readable {images : XpmMap → XpmImage} {mode : VbeModeInfo}
    (addressable : Addressable mode) (sized : Sized images) (resolution : mode.toModeInfo = mode14C)
    {program : Program} (reached : Reachable mode14C program) (running : program.control = .gameState)
    (keyboard : Option Ports) (answers : Answers) (buffers : Buffers) {ticked : Globals}
    (tick : ticked = tickGlobals mode14C keyboard answers program.globals)
    (drawn : drawsFrame mode14C ticked.arena = true) :
    ∀ writing ∈ liveWritings mode14C ticked.score.currentScore,
      writing.ReadOn images mode
        (picture images mode
          (checkedCalls ticked.arena ++ enemyBulletCalls ticked.arena ++ shieldCalls ticked.arena))
        (readPixel mode (Display.step images mode (program, buffers)
          (.hardware keyboard (some answers))).2.videoMem) := by
  obtain ⟨fired, shots, time, seconds⟩ := ticked_counters reached running keyboard answers rfl
  obtain ⟨inside, beside⟩ := liveWritings_beside fired shots time seconds
  have fits : ∀ writing ∈ liveWritings mode14C ticked.score.currentScore,
      writing.OnScreen mode.toModeInfo := by
    rw [resolution, tick]
    exact inside
  have shows := gameTimer_shows addressable sized (tickGlobals mode14C keyboard answers program.globals)
    buffers
  obtain ⟨control, globals⟩ := program
  cases running
  subst tick
  rw [resolution, if_pos drawn, gamePicture, uncheckedCalls, drawLiveScore_eq, ← List.append_assoc,
    ← List.append_assoc] at shows
  rw [step_gameTimer, resolution]
  exact Writing.readOn_of_beside sized fits beside shows

/-- The score on the first frame of the first game. -/
theorem live_score_readable_firstFrame :
    (⟨true, bytes "10000", 152, 20⟩ : Writing).ReadOn whiteImages mode14CInfo
      (picture whiteImages mode14CInfo
        (checkedCalls (tickGlobals mode14C none ⟨0, 0, .success⟩
            (run mode14C (start none) [press kbEnter, timerTick 0]).globals).arena ++
          enemyBulletCalls (tickGlobals mode14C none ⟨0, 0, .success⟩
            (run mode14C (start none) [press kbEnter, timerTick 0]).globals).arena ++
          shieldCalls (tickGlobals mode14C none ⟨0, 0, .success⟩
            (run mode14C (start none) [press kbEnter, timerTick 0]).globals).arena))
      (readPixel mode14CInfo (Display.step whiteImages mode14CInfo
        (run mode14C (start none) [press kbEnter, timerTick 0], ⟨fun _ => 1, fun _ => 2⟩)
        (timerTick 0)).2.videoMem) := by
  have running : (run mode14C (start none) [press kbEnter, timerTick 0]).control = .gameState := by
    decide
  have drawn : drawsFrame mode14C (tickGlobals mode14C none ⟨0, 0, .success⟩
      (run mode14C (start none) [press kbEnter, timerTick 0]).globals).arena = true := by
    decide +kernel
  exact live_score_readable addressable_mode14CInfo sized_whiteImages rfl
    ((reachable_start mode14C none).run _) running none ⟨0, 0, .success⟩ ⟨fun _ => 1, fun _ => 2⟩ rfl
    drawn _ (by decide +kernel)

/-! ### The scoreboard -/

/-- The writing of `draw_text_centered`. -/
def centered (text : List UInt8) (centerX y : Int) : Writing :=
  ⟨false, text, centerX - (calculateTextWidth text).tdiv 2, y⟩

/-- A centered text that is narrower than the screen is a line. -/
theorem centered_inLine {text : List UInt8} (narrow : 22 * text.length ≤ 1152) (y : Int) :
    Writing.InLine y 0 1152 [centered text 576 y] := by
  have start : (centered text 576 y).x = 576 - 11 * text.length := by
    show 576 - (calculateTextWidth text).tdiv 2 = _
    unfold calculateTextWidth charSpacing
    rw [Int.tdiv_eq_ediv_of_nonneg (by omega)]
    omega
  have length : (centered text 576 y).text = text := rfl
  refine ⟨rfl, by omega, ?_⟩
  show (centered text 576 y).right ≤ 1152
  rw [Writing.right_eq, start, length]
  omega

/-- The writings of a row of `draw_scoreboard_menu`. -/
def rowWritings (i : Nat) (entry : HighScoreEntry) : List Writing :=
  [⟨false, rankStr i, 80, 130 + (i + 1) * 40⟩, ⟨false, entry.name, 200, 130 + (i + 1) * 40⟩,
    ⟨true, Decimal.integer entry.score, 400, 130 + (i + 1) * 40⟩,
    ⟨true, Decimal.integer entry.bulletsFired, 550, 130 + (i + 1) * 40⟩,
    ⟨true, Decimal.integer entry.gameTimeSeconds, 700, 130 + (i + 1) * 40⟩,
    ⟨false, bytes "S", 700 + calculateTextWidth (bytes "999"), 130 + (i + 1) * 40⟩]

/-- The writings of the titles. -/
def titleWritings : List Writing :=
  [⟨false, bytes "RANK", 80, 130⟩, ⟨false, bytes "PILOT", 200, 130⟩, ⟨false, bytes "SCORE", 400, 130⟩,
    ⟨false, bytes "SHOTS", 550, 130⟩, ⟨false, bytes "TIME", 700, 130⟩]

/-- The writings between the heading and the last line. -/
def tableWritings (table : ScoreTable) : List Writing :=
  if min table.highscoreCount 8 = 0 then
    [centered (bytes "NO HIGH SCORES YET") 576 210,
      centered (bytes "PLAY A GAME TO SET YOUR FIRST SCORE") 576 250]
  else
    titleWritings ++ (List.range (min table.highscoreCount 8)).flatMap fun i =>
      rowWritings i (table.highscores.getD i ⟨[], 0, 0, 0⟩)

/-- The writings of `draw_scoreboard_menu`. -/
def scoreboardWritings (table : ScoreTable) : List Writing :=
  centered (bytes "HIGH SCORES") 576 80 :: (tableWritings table ++
    [centered (bytes "PRESS ESC TO RETURN TO MENU") 576 784])

theorem scoreboardRow_eq (i : Nat) (entry : HighScoreEntry) :
    scoreboardRow 130 i entry = (rowWritings i entry).flatMap Writing.calls := by
  simp only [scoreboardRow, rowWritings, List.flatMap_cons, List.flatMap_nil, Writing.calls,
    Writing.drawNumber_eq, List.append_assoc, List.append_nil]
  rfl

theorem drawScoreboardMenu_eq (table : ScoreTable) :
    drawScoreboardMenu mode14C table = (scoreboardWritings table).flatMap Writing.calls := by
  have count : (if table.highscoreCount < 8 then table.highscoreCount else 8) =
      min table.highscoreCount 8 := by
    split <;> omega
  have centers (text : List UInt8) (y : Int) :
      drawTextCentered text 576 y = (centered text 576 y).calls := rfl
  have width : mode14C.width.tdiv 2 = 576 := rfl
  have height : mode14C.height - 80 = 784 := rfl
  unfold drawScoreboardMenu scoreboardWritings tableWritings
  simp only [count, width, height, List.flatMap_cons, List.flatMap_append, List.flatMap_nil,
    List.append_nil, List.append_assoc, centers]
  congr 2
  split
  · rw [List.flatMap_cons, List.flatMap_singleton]
    norm_num
  · have titles : scoreboardTitles 130 = titleWritings.flatMap Writing.calls := by
      simp only [scoreboardTitles, titleWritings, List.flatMap_cons, List.flatMap_nil, Writing.calls,
        List.append_assoc, List.append_nil]
      rfl
    have rows : (fun i => scoreboardRow 130 i (table.highscores.getD i ⟨[], 0, 0, 0⟩)) =
        fun i => (rowWritings i (table.highscores.getD i ⟨[], 0, 0, 0⟩)).flatMap Writing.calls := by
      funext i
      exact scoreboardRow_eq i _
    rw [List.flatMap_append, List.flatMap_assoc, ← titles, ← rows]
    rfl

/-- An entry whose fields fit into the columns of the scoreboard. -/
structure FitsRow (entry : HighScoreEntry) : Prop where
  name : entry.name.length ≤ 9
  score : (Decimal.integer entry.score).length ≤ 6
  shots : (Decimal.integer entry.bulletsFired).length ≤ 6
  time : (Decimal.integer entry.gameTimeSeconds).length ≤ 3

/-- The result of a win fits. -/
theorem WinSized.fitsRow {entry : HighScoreEntry} (sized : WinSized entry) : FitsRow entry := by
  obtain ⟨_, named, score, shots, time⟩ := sized
  refine ⟨named, ?_, ?_, ?_⟩
  · exact Decimal.integer_length_of_nonneg (by decide) (by omega) (by omega)
  · exact Decimal.integer_length_of_nonneg (by decide) (by omega) (by omega)
  · exact Decimal.integer_length_of_nonneg (by decide) (by omega) (by omega)

/-- A row is a line of its own. -/
theorem rowWritings_inLine {i : Nat} (low : i < 8) {entry : HighScoreEntry} (fits : FitsRow entry) :
    Writing.InLine (130 + (i + 1) * 40) 0 1152 (rowWritings i entry) := by
  have rank : ∀ i < 8, (rankStr i).length ≤ 3 := by decide +kernel
  have short := rank i low
  obtain ⟨name, score, shots, time⟩ := fits
  have hundreds : calculateTextWidth (bytes "999") = 66 := rfl
  have s : (bytes "S").length = 1 := rfl
  refine ⟨rfl, (by decide : (0 : Int) ≤ 80), rfl, ?_, rfl, ?_, rfl, ?_, rfl, ?_, rfl, ?_, ?_⟩
  · rw [Writing.right_eq]
    show 80 + 22 * ((rankStr i).length : Int) ≤ 200
    omega
  · rw [Writing.right_eq]
    show 200 + 22 * (entry.name.length : Int) ≤ 400
    omega
  · rw [Writing.right_eq]
    show 400 + 22 * ((Decimal.integer entry.score).length : Int) ≤ 550
    omega
  · rw [Writing.right_eq]
    show 550 + 22 * ((Decimal.integer entry.bulletsFired).length : Int) ≤ 700
    omega
  · rw [Writing.right_eq]
    show 700 + 22 * ((Decimal.integer entry.gameTimeSeconds).length : Int) ≤ 700 + 66
    omega
  · show (700 + 66 + 22 : Int) ≤ 1152
    decide

/-- The writings of the scoreboard are beside one another. -/
theorem scoreboardWritings_beside {table : ScoreTable}
    (fits : ∀ i < 8, ∀ entry, table.entries[i]? = some entry → FitsRow entry) :
    (∀ writing ∈ scoreboardWritings table, writing.OnScreen mode14C) ∧
      (scoreboardWritings table).Pairwise Writing.Beside := by
  have line {y left : Int} {writings : List Writing} {bottom : Int}
      (line : Writing.InLine y left 1152 writings) (start : 0 ≤ left) (below : y + 35 ≤ bottom) :
      Writing.Block mode14C y bottom writings :=
    .of_line line start (by decide) le_rfl below
  have heading : Writing.Block mode14C 80 130 [centered (bytes "HIGH SCORES") 576 80] :=
    line (centered_inLine (by decide) 80) le_rfl (by decide)
  have foot : Writing.Block mode14C 784 864
      [centered (bytes "PRESS ESC TO RETURN TO MENU") 576 784] :=
    line (centered_inLine (by decide) 784) le_rfl (by decide)
  have middle : Writing.Block mode14C 130 784 (tableWritings table) := by
    unfold tableWritings
    split
    · have none : Writing.Block mode14C 210 250 [centered (bytes "NO HIGH SCORES YET") 576 210] :=
        line (centered_inLine (by decide) 210) le_rfl (by decide)
      have play : Writing.Block mode14C 250 784
          [centered (bytes "PLAY A GAME TO SET YOUR FIRST SCORE") 576 250] :=
        line (centered_inLine (by decide) 250) le_rfl (by decide)
      have nothing : Writing.Block mode14C 130 210 [] := ⟨fun writing member => (nomatch member), .nil⟩
      exact nothing.append (none.append play (by decide) (by decide)) (by decide) (by decide)
    · have titles : Writing.Block mode14C 130 170 titleWritings :=
        line (by decide : Writing.InLine 130 80 1152 titleWritings) (by decide) (by decide)
      have rows : Writing.Block mode14C 170 (170 + 40 * (min table.highscoreCount 8 : Nat))
          ((List.range (min table.highscoreCount 8)).flatMap fun i =>
            rowWritings i (table.highscores.getD i ⟨[], 0, 0, 0⟩)) := by
        refine Writing.Block.stack (by decide) fun i less => ?_
        have inside : i < table.highscoreCount := by omega
        have shown : table.entries[i]? = some (table.highscores.getD i ⟨[], 0, 0, 0⟩) := by
          have within := table.within_length
          rw [ScoreTable.entries, List.getElem?_take_of_lt inside, List.getD_eq_getElem?_getD,
            List.getElem?_eq_getElem (inside.trans_le within), Option.getD_some]
        have row := rowWritings_inLine (by omega : i < 8) (fits i (by omega) _ shown)
        exact .of_line row le_rfl (by decide) (by omega) (by omega)
      exact titles.append (rows.mono (by omega)) (by decide) (by decide)
  have block := (heading.append middle (by decide) (by decide)).append foot (by decide) (by decide)
  exact ⟨block.onScreen (by decide) (by decide), block.beside⟩

/-- The flags follow the history while `menu_handler` waits. -/
theorem follows_of_reachable {mode : ModeInfo} {program : Program} (reached : Reachable mode program)
    (waits : program.control = .menuHandler) : ∃ log, MenuFollows log program.globals := by
  obtain ⟨csv, messages, rfl⟩ := reached
  have tracks := @Runs.run_invariant _ _ (Runs.recording (step mode) (event mode)) Tracks
    (fun _ receive follows => follows.step receive) _ (tracks_start csv) messages
  rw [Runs.run_recording] at tracks
  have menu {log : List Event} {program : Program} (tracks : Tracks (log, program))
      (waits : program.control = .menuHandler) : MenuFollows log program.globals := by
    obtain ⟨control, globals⟩ := program
    cases waits
    exact tracks
  exact ⟨_, menu tracks waits⟩

/-- A score screen without checked calls is shown. -/
theorem menuTimer_shows_scores {images : XpmMap → XpmImage} {mode : VbeModeInfo}
    (addressable : Addressable mode) (sized : Sized images) {globals : Globals}
    (state : globals.menu.currentState = .scores) (fresh : globals.showScoresDrawn = false)
    (draws : (scoresScreen globals).draws mode.toModeInfo = true) (buffers : Buffers) :
    ShowsPicture images mode (Display.menuTimer images mode globals buffers).videoMem
      (scoresPicture mode.toModeInfo globals) := by
  have shows := menuTimer_shows addressable sized globals buffers
  have drawn : drawsScores mode.toModeInfo globals = true := by
    simp [drawsScores, fresh, vgDrawRectangle_screen, draws]
  unfold menuTimerPicture at shows
  rw [state] at shows
  simp only at shows
  rw [if_pos ⟨by rw [fresh]; exact Bool.false_ne_true, drawn⟩] at shows
  exact shows

end SpaceInvaders
