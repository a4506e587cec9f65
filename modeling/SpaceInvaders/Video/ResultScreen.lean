/-
**The screen of a won game shows the row that was saved for it.**

`save_win_highscore` writes the counters of `current_score` into the file; the score screen reads them again
at a later tick, behind any number of keys. In between nothing but the start of a game or the return to
the main menu changes them, and both clear `player_win` first.

* `result_pending`: while `player_win` is set, `current_score` is the last row of the run;
* `result_readable`: so that is what the screen shows.
-/

import SpaceInvaders.Control.Escape
import SpaceInvaders.Video.Readable

namespace SpaceInvaders

open Text Display BackBuffer

/-! ### The counters behind a win -/

/-- The counters that a row was made of. -/
def HighScoreEntry.current (entry : HighScoreEntry) : GameScore :=
  ⟨entry.bulletsFired, entry.gameTimeSeconds, entry.score⟩

/-- The counters are those of a won game: the ones of its row. -/
def Pending (rows : List HighScoreEntry) (globals : Globals) : Prop :=
  globals.playerWin = true →
    ∃ entry, rows.getLast? = some entry ∧ globals.score.currentScore = entry.current

variable {rows : List HighScoreEntry} {globals : Globals}

theorem Pending.of_clear (clear : globals.playerWin = false) : Pending rows globals := fun won => by
  rw [clear] at won
  cases won

theorem pending_menuHandlerLoop :
    Pending rows (menuHandlerLoop globals).globals ↔ Pending rows globals := by
  rw [menuHandlerLoop_globals]

/-- Leaving the score screens clears the flag. -/
theorem pending_scoreStateLoop (pending : Pending rows globals) :
    Pending rows (scoreStateLoop globals).globals := by
  unfold scoreStateLoop leaveScores
  split
  · exact pending_menuHandlerLoop.mpr (.of_clear rfl)
  · exact pending

/-- The menu keeps the counters, unless it starts a game. -/
theorem pending_menuTimer {mode : ModeInfo} (pending : Pending rows globals) :
    Pending rows (menuTimer mode globals).globals := by
  unfold menuTimer
  simp only
  split
  · unfold startGame
    split
    · exact pending
    · refine .of_clear ?_
      exact (gameStateLoop_flags _).1
  · unfold showScores
    split
    · exact pending_scoreStateLoop pending
    · exact pending
  · exact pending
  · exact pending_menuHandlerLoop.mpr pending

/-- **Outside games** the counters of a win stay as long as its flag. -/
theorem pending_idle {mode : ModeInfo} {program : Program} (idle : program.control ≠ .gameState)
    (pending : Pending rows program.globals) (receive : Receive) :
    Pending rows (step mode program receive).globals := by
  obtain ⟨control, globals⟩ := program
  cases control with
  | gameState => exact absurd rfl idle
  | returned code => cases receive <;> exact pending
  | menuHandler =>
    cases receive with
    | failed => exact pending_menuHandlerLoop.mpr pending
    | ignored => exact pending_menuHandlerLoop.mpr pending
    | hardware keyboard timer =>
      have pressed : Pending rows (menuInput keyboard globals) := by
        cases keyboard <;> exact pending
      cases timer with
      | none => exact pending_menuHandlerLoop.mpr pressed
      | some answers => exact pending_menuTimer pressed
  | scoreState =>
    cases receive with
    | failed => exact pending_scoreStateLoop pending
    | ignored => exact pending_scoreStateLoop pending
    | hardware keyboard timer =>
      cases keyboard with
      | none => exact pending_scoreStateLoop pending
      | some ports =>
        show Pending rows (if _ then _ else _ : Program).globals
        split
        · exact pending_menuHandlerLoop.mpr (.of_clear rfl)
        · exact pending_scoreStateLoop pending

/-- **In a game** the flag is only set together with a new row. -/
theorem pending_running {mode : ModeInfo} {program : Program} (reached : Reachable mode program)
    (running : program.control = .gameState) (rows : List HighScoreEntry) (receive : Receive) :
    Pending (rows ++ (winRow mode program receive).toList) (step mode program receive).globals := by
  have inGame := inGame_of_reachable reached running
  obtain ⟨control, globals⟩ := program
  cases running
  have stays {globals : Globals} (clear : globals.playerWin = false) (rows : List HighScoreEntry) :
      Pending rows (gameStateLoop globals).globals :=
    .of_clear ((gameStateLoop_flags globals).1.trans clear)
  cases receive with
  | failed => exact stays inGame.notWon _
  | ignored => exact stays inGame.notWon _
  | hardware keyboard timer =>
    cases timer with
    | none => exact stays (inGame.input mode keyboard).notWon _
    | some answers =>
      obtain ⟨clear, _⟩ := inGame.ticked mode keyboard answers
      rw [step_tick rfl, finishTick_eq]
      cases outcome : tickOutcome mode (tickGlobals mode keyboard answers globals) with
      | undrawn => exact .of_clear clear
      | lost => exact pending_menuHandlerLoop.mpr (.of_clear clear)
      | won =>
        have row : winRow mode ⟨.gameState, globals⟩ (.hardware keyboard (some answers)) =
            some (winEntry answers (tickGlobals mode keyboard answers globals)) :=
          if_pos ⟨rfl, (inGame.wins_eq mode keyboard answers).mpr outcome⟩
        rw [row]
        refine pending_menuHandlerLoop.mpr fun _ => ⟨_, List.getLast?_concat, ?_⟩
        rw [winEntry_eq]
        exact saveWinHighscore_currentScore _ _ _
      | goesOn => exact stays clear _

/-- **While `player_win` is set**, the counters are those of the last row of the run. -/
theorem result_pending (mode : ModeInfo) (csv : Option (List UInt8)) (messages : List Receive) :
    Pending (winRows mode csv messages) (run mode (start csv) messages).globals := by
  have recorded := @Runs.run_recorded _ _ (step mode) _ (winRow mode)
    (fun rows program => Reachable mode program ∧ Pending rows program.globals) (fun _ _ => True) ?_ []
    (start csv) ⟨reachable_start mode csv, pending_menuHandlerLoop.mpr (.of_clear rfl)⟩ messages
    (Runs.along_of_forall fun _ _ => trivial)
  · exact recorded.2
  · rintro rows program receive ⟨reached, pending⟩ -
    refine ⟨reached.step receive, ?_⟩
    by_cases running : program.control = .gameState
    · exact pending_running reached running rows receive
    · rw [winRow_of_idle running, Option.toList_none, List.append_nil]
      exact pending_idle running pending receive

/-! ### The screen -/

/-- A label and a number in the middle of the screen. -/
theorem labelledCentered_inLine {label : List UInt8} {number : Int}
    (narrow : 22 * label.length + 22 * (Decimal.integer number).length ≤ 1100) (y : Int) :
    Writing.InLine y 0 1152 (labelled label number (centeredX label number 576) y) := by
  have place := centeredX_bounds label number 576
  exact labelled_inLine _ _ _ _ (by omega) (by omega)

/-- The writings of `draw_final_score_display` behind the one of "PILOT". -/
def resultWritings (current : GameScore) : List Writing :=
  centered (bytes "UNKNOWN") 636 352 ::
    (labelled (bytes "FINAL SCORE ") current.finalScore
        (centeredX (bytes "FINAL SCORE ") current.finalScore 576) 392 ++
      labelled (bytes "TIME ") current.gameTimeSeconds
        (centeredX (bytes "TIME ") current.gameTimeSeconds 576) 432 ++
      labelled (bytes "SHOTS FIRED ") current.bulletsFired
        (centeredX (bytes "SHOTS FIRED ") current.bulletsFired 576) 472 ++
      (if current.bulletsFired > 0 then
        labelled (bytes "EFFICIENCY ") (efficiency current)
          (centeredX (bytes "EFFICIENCY ") (efficiency current) 576) 512
      else []) ++ [centered (bytes "PRESS ENTER") 576 552])

/-- The calls before them; the letters of "PILOT" reach below those of "UNKNOWN". -/
def resultTitle : List PrintXpm :=
  drawTextCentered (bytes "YOU WON") 576 312 ++ drawTextCentered (bytes "PILOT") 516 352

theorem drawFinalScoreDisplay_eq (current : GameScore) :
    drawFinalScoreDisplay mode14C current =
      resultTitle ++ (resultWritings current).flatMap Writing.calls := by
  have width : mode14C.width.tdiv 2 = 576 := rfl
  have height : mode14C.height.tdiv 2 = 432 := rfl
  have centers (text : List UInt8) (x y : Int) :
      drawTextCentered text x y = (centered text x y).calls := rfl
  unfold drawFinalScoreDisplay resultWritings resultTitle
  simp only [width, height, charHeight, drawLabelAndNumberCentered_eq, List.flatMap_cons,
    List.flatMap_append, List.flatMap_nil, List.append_nil, List.append_assoc, centers]
  norm_num
  split
  · rfl
  · rfl

/-- What the result screen shows of a win is beside one another. -/
theorem resultWritings_beside {entry : HighScoreEntry} (sized : WinSized entry) :
    (∀ writing ∈ resultWritings entry.current, writing.OnScreen mode14C) ∧
      (resultWritings entry.current).Pairwise Writing.Beside := by
  obtain ⟨_, _, score, shots, time⟩ := sized
  have line {y bottom : Int} {writings : List Writing} (line : Writing.InLine y 0 1152 writings)
      (below : y + 35 ≤ bottom) : Writing.Block mode14C y bottom writings :=
    .of_line line le_rfl le_rfl le_rfl below
  have number {label : List UInt8} {value : Int} (short : label.length ≤ 12) (nonneg : 0 ≤ value)
      (small : value < 10 ^ 5) (y : Int) :
      Writing.Block mode14C y (y + 40) (labelled label value (centeredX label value 576) y) := by
    have digits := Decimal.integer_length_of_nonneg (by decide : 0 < 5) nonneg small
    exact line (labelledCentered_inLine (by omega) y) (by omega)
  have pilot : Writing.Block mode14C 352 392 [centered (bytes "UNKNOWN") 636 352] :=
    line (by decide) (by decide)
  have final := @number (bytes "FINAL SCORE ") entry.score (by decide) (by omega) (by omega) 392
  have seconds := @number (bytes "TIME ") entry.gameTimeSeconds (by decide) time.1 (by omega) 432
  have fired := @number (bytes "SHOTS FIRED ") entry.bulletsFired (by decide) shots.1 (by omega) 472
  have efficient : Writing.Block mode14C 512 552 (if entry.current.bulletsFired > 0 then
      labelled (bytes "EFFICIENCY ") (efficiency entry.current)
        (centeredX (bytes "EFFICIENCY ") (efficiency entry.current) 576) 512
      else []) := by
    split
    · have bounds : 0 ≤ efficiency entry.current ∧ efficiency entry.current ≤ 100 := by
        unfold efficiency
        have final : entry.current.finalScore = entry.score := rfl
        rw [final, Int.tdiv_eq_ediv_of_nonneg (by omega)]
        simp only
        split <;> omega
      exact number (by decide) bounds.1 (by omega) 512
    · exact ⟨fun writing member => (nomatch member), .nil⟩
  have enter : Writing.Block mode14C 552 864 [centered (bytes "PRESS ENTER") 576 552] :=
    line (by decide) (by decide)
  have numbers := ((final.append seconds (by decide) (by decide)).append fired (by decide)
    (by decide)).append efficient (by decide) (by decide)
  have block := pilot.append (numbers.append enter (by decide) (by decide)) (by decide) (by decide)
  exact ⟨block.onScreen (by decide) le_rfl, block.beside⟩

/-- **The result screen shows the saved row.** Whenever a run of the program shows the screen of a won game,
whatever keys were pressed since, the video memory shows the score, the seconds and the shots of the last
row that the run has brought into the score file. -/
theorem result_readable {images : XpmMap → XpmImage} {mode : VbeModeInfo}
    (addressable : Addressable mode) (sized : Sized images) (resolution : mode.toModeInfo = mode14C)
    {csv : Option (List UInt8)} {messages : List Receive} {program : Program}
    (reached : program = run mode14C (start csv) messages) (waits : program.control = .menuHandler)
    (keyboard : Option Ports) (answers : Answers) (buffers : Buffers) {globals : Globals}
    (pressed : globals = menuInput keyboard program.globals)
    (state : globals.menu.currentState = .scores) (screen : scoresScreen globals = .finalScore) :
    ∃ entry, (winRows mode14C csv messages).getLast? = some entry ∧
      ∀ writing ∈ resultWritings entry.current,
        writing.ReadOn images mode (picture images mode resultTitle)
          (readPixel mode (Display.step images mode (program, buffers)
            (.hardware keyboard (some answers))).2.videoMem) := by
  have reachable : Reachable mode14C program := ⟨csv, messages, reached⟩
  obtain ⟨log, follows⟩ := follows_of_reachable reachable waits
  have same : globals.score = program.globals.score ∧ globals.playerWin = program.globals.playerWin ∧
      globals.showScoresDrawn = program.globals.showScoresDrawn := by
    rw [pressed]
    cases keyboard <;> exact ⟨rfl, rfl, rfl⟩
  have won : globals.playerWin = true := by
    unfold scoresScreen at screen
    split at screen
    · cases screen
    split at screen
    · rename_i win
      exact win
    · cases screen
  have pending := result_pending mode14C csv messages
  rw [← reached] at pending
  obtain ⟨entry, last, counters⟩ := pending (same.2.1 ▸ won)
  have rowSized : WinSized entry := by
    obtain ⟨before, receive, after, _, row⟩ :=
      Runs.exists_step_of_mem_outputs (List.mem_of_getLast? last)
    exact winRow_winSized ⟨csv, before, rfl⟩ row
  obtain ⟨inside, beside⟩ := resultWritings_beside rowSized
  have fresh : globals.showScoresDrawn = false := same.2.2.trans follows.fresh
  have shows := menuTimer_shows_scores addressable sized state fresh (by rw [screen]; rfl) buffers
  rw [scoresPicture, screen, resolution] at shows
  simp only at shows
  rw [drawFinalScoreDisplay_eq, same.1, counters] at shows
  obtain ⟨control, before⟩ := program
  cases waits
  refine ⟨entry, last, ?_⟩
  rw [step_menuTimer, ← pressed]
  rw [← resolution] at inside
  exact Writing.readOn_of_beside sized inside beside shows

/-- A game won without a key leads to `menu_handler` with its result. -/
theorem waits_of_won {mode : ModeInfo} {program : Program} (reached : Reachable mode program)
    {roll : Nat} {entry : HighScoreEntry} (won : winRow mode program (timerTick roll) = some entry) :
    (step mode program (timerTick roll)).control = .menuHandler ∧
      EndsWon (step mode program (timerTick roll)) := by
  obtain ⟨running, wins, _⟩ := winRow_eq_some won
  have inGame := inGame_of_reachable reached running
  refine ⟨?_, (step_ends running inGame (timerTick roll)).2.mpr wins⟩
  have passed : program.globals.scancode ≠ kbBreakEsc :=
    (passedTest_of_reachable reached).resolve_left fun ⟨code, same⟩ => by
      rw [running] at same
      cases same
  have outcome := (inGame.wins_eq mode none ⟨roll, 0, .success⟩).mp wins
  rw [timerTick, step_tick running, finishTick_eq, outcome]
  exact congrArg Program.control (if_neg passed)

/-- The result of the best game. -/
theorem result_readable_bestGame :
    ∃ entry, (winRows mode14C none (bestGame ++ [timerTick 0])).getLast? = some entry ∧
      ∀ writing ∈ resultWritings entry.current,
        writing.ReadOn whiteImages mode14CInfo (picture whiteImages mode14CInfo resultTitle)
          (readPixel mode14CInfo (Display.step whiteImages mode14CInfo
            (run mode14C (start none) (bestGame ++ [timerTick 0]), ⟨fun _ => 1, fun _ => 2⟩)
            (timerTick 0)).2.videoMem) := by
  have before : Reachable mode14C (run mode14C (start none) bestGame) := ⟨none, bestGame, rfl⟩
  have ended := waits_of_won before winRow_bestGame
  obtain ⟨program, reached⟩ : ∃ program,
      program = run mode14C (start none) (bestGame ++ [timerTick 0]) := ⟨_, rfl⟩
  have last : program = step mode14C (run mode14C (start none) bestGame) (timerTick 0) :=
    reached.trans (Runs.run_snoc _ _ _)
  rw [← last] at ended
  rw [← reached]
  obtain ⟨waits, win, state⟩ := ended
  have screen : scoresScreen program.globals = .finalScore := by
    unfold scoresScreen
    rw [if_neg fun neither => neither.1 win, if_pos win]
  exact result_readable addressable_mode14CInfo sized_whiteImages rfl reached waits none
    ⟨0, 0, .success⟩ ⟨fun _ => 1, fun _ => 2⟩ rfl state screen

end SpaceInvaders
