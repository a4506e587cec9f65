/-
**The live score, the final score and the clock agree.**

The formula of the score is written twice, in `draw_live_score` and in `score_calculate_final`, and its
counters come from two interrupts and from a tick counter that runs through all games. Over one game
`Clock` ties them together, and the trace of what is drawn follows from it by `Runs.run_recorded`.

* `live_score_agrees`: every frame of a game, and its end;
* `not_final_kept`: leaving the score screen resets the final score, so a later call of
  `score_calculate_final` does not return it again.
-/

import SpaceInvaders.Game.Outcome

namespace SpaceInvaders

/-! ### The calls of `score.c` -/

/-- The functions of `score.c` that write the state of a game's score. -/
inductive ScoreCall
  | init (timerCounter : Nat)
  | addBullet
  | updateTime (timerTicks : Nat)
  | calculateFinal
  | reset
  | saveWin (roll : Nat) (outcome : FileOutcome)

/-- One call. -/
def ScoreCall.apply (score : Score) : ScoreCall → Score
  | .init timerCounter => scoreInit timerCounter score
  | .addBullet => scoreAddBullet score
  | .updateTime timerTicks => scoreUpdateTime timerTicks score
  | .calculateFinal => scoreCalculateFinal score
  | .reset => scoreReset score
  | .saveWin roll outcome => saveWinHighscore roll outcome score

/-- The call starts or clears a game's score. -/
def ScoreCall.Restarts : ScoreCall → Prop
  | .init _ => True
  | .reset => True
  | _ => False

/-- Once a score is final, the other calls leave it alone. -/
theorem ScoreCall.apply_final {score : Score} (final : score.gameActive = false) {call : ScoreCall}
    (keeps : ¬ call.Restarts) :
    (call.apply score).gameActive = false ∧ (call.apply score).currentScore = score.currentScore := by
  have idle : ¬ score.gameActive = true := by rw [final]; exact Bool.false_ne_true
  cases call with
  | init => exact absurd trivial keeps
  | reset => exact absurd trivial keeps
  | addBullet =>
    rw [ScoreCall.apply, scoreAddBullet, if_neg idle]
    exact ⟨final, rfl⟩
  | updateTime timerTicks =>
    rw [ScoreCall.apply, scoreUpdateTime, if_neg idle]
    exact ⟨final, rfl⟩
  | calculateFinal =>
    rw [ScoreCall.apply, scoreCalculateFinal, if_neg idle]
    exact ⟨final, rfl⟩
  | saveWin roll outcome =>
    rw [ScoreCall.apply, saveWinHighscore]
    split
    · exact ⟨final, rfl⟩
    · exact ⟨final, rfl⟩

theorem scoreCalculateFinal_gameActive (score : Score) :
    (scoreCalculateFinal score).gameActive = false := by
  unfold scoreCalculateFinal
  split
  · rfl
  · rename_i idle
    simpa using idle

/-- **A final score is returned again** after any calls that neither start nor clear a score. -/
theorem scoreCalculateFinalReturn_again (score : Score) {calls : List ScoreCall}
    (keep : ∀ call ∈ calls, ¬ call.Restarts) :
    scoreCalculateFinalReturn (Runs.run ScoreCall.apply (scoreCalculateFinal score) calls) =
      scoreCalculateFinalReturn score := by
  have kept : (Runs.run ScoreCall.apply (scoreCalculateFinal score) calls).gameActive = false ∧
      (Runs.run ScoreCall.apply (scoreCalculateFinal score) calls).currentScore =
        (scoreCalculateFinal score).currentScore := by
    induction calls using List.reverseRecOn with
    | nil => exact ⟨scoreCalculateFinal_gameActive score, rfl⟩
    | append_singleton calls call ih =>
      obtain ⟨final, same⟩ := ih fun other member => keep other (List.mem_append_left _ member)
      rw [Runs.run_snoc, ← same]
      exact ScoreCall.apply_final final (keep call (by simp))
  unfold scoreCalculateFinalReturn
  rw [← kept.2]
  exact congrArg GameScore.finalScore
    (@ScoreCall.apply_final _ kept.1 .calculateFinal fun restarts => restarts).2

/-! ### The clock -/

/-- The formula of both scores. -/
def scoreOf (bulletsFired seconds : Int) : Int := max 100 (10000 - 50 * bulletsFired - 10 * seconds)

theorem scoreOf_bounds {bulletsFired seconds : Int} (fired : 0 ≤ bulletsFired) (time : 0 ≤ seconds) :
    100 ≤ scoreOf bulletsFired seconds ∧ scoreOf bulletsFired seconds ≤ 10000 := by
  unfold scoreOf
  omega

theorem drawLiveScore_score (current : GameScore) :
    (drawLiveScore current).score = scoreOf current.bulletsFired current.gameTimeSeconds := by
  simp only [drawLiveScore, scoreOf]
  split <;> omega

theorem scoreCalculateFinalReturn_eq {score : Score} (counting : score.gameActive = true) :
    scoreCalculateFinalReturn score =
      scoreOf score.currentScore.bulletsFired score.currentScore.gameTimeSeconds := by
  simp only [scoreCalculateFinalReturn, scoreCalculateFinal, if_pos counting, scoreOf]
  split <;> omega

/-- The counters of a game that has seen `ticks` timer ticks. -/
structure Clock (ticks : Nat) (globals : Globals) : Prop where
  counting : globals.score.gameActive = true
  started : globals.timerCounter = globals.score.gameStartTime + ticks
  time : globals.score.currentScore.gameTimeSeconds = (ticks / 60 : Nat)
  fired : 0 ≤ globals.score.currentScore.bulletsFired

namespace Clock

variable {mode : ModeInfo} {ticks : Nat} {globals : Globals}

/-- A key leaves the clock alone and can only raise the shots. -/
theorem input (clock : Clock ticks globals) (keyboard : Option Ports) :
    Clock ticks (gameInput mode keyboard globals) ∧
      globals.score.currentScore.bulletsFired ≤
        (gameInput mode keyboard globals).score.currentScore.bulletsFired := by
  obtain ⟨counting, started, time, fired⟩ := clock
  have counts : scoreAddBullet globals.score =
      { globals.score with
        currentScore :=
          { globals.score.currentScore with
            bulletsFired := globals.score.currentScore.bulletsFired + 1 } } := if_pos counting
  rcases gameInput_score mode keyboard globals with same | launched
  · exact ⟨⟨by rwa [same], by rwa [gameInput_timerCounter, same], by rwa [same], by rwa [same]⟩,
      by rw [same]⟩
  · rw [counts] at launched
    refine ⟨⟨by rwa [launched], by rwa [gameInput_timerCounter, launched], by rwa [launched], ?_⟩, ?_⟩
    · rw [launched]
      exact Int.add_nonneg fired (by decide)
    · rw [launched]
      exact Int.le_add_one le_rfl

/-- A tick counts one further. -/
theorem tick (clock : Clock ticks globals) (answers : Answers) :
    Clock (ticks + 1) (gameTick mode answers globals) ∧
      (gameTick mode answers globals).score.currentScore.bulletsFired =
        globals.score.currentScore.bulletsFired := by
  obtain ⟨counting, started, time, fired⟩ := clock
  have updates := gameTick_score mode answers counting
  refine ⟨⟨by rwa [updates], ?_, ?_, by rwa [updates]⟩, by rw [updates]⟩
  · rw [updates]
    show globals.timerCounter + 1 = globals.score.gameStartTime + (ticks + 1)
    omega
  · rw [updates]
    show (((globals.timerCounter + 1 : Nat) : Int) - globals.score.gameStartTime).tdiv 60 = _
    have elapsed : ((globals.timerCounter + 1 : Nat) : Int) - globals.score.gameStartTime =
        ((ticks + 1 : Nat) : Int) := by omega
    rw [elapsed]
    exact (Int.natCast_ediv _ _).symm ▸ Int.tdiv_eq_ediv_of_nonneg (Int.natCast_nonneg _)

/-- The clock of a game that a message does not end. -/
theorem step (clock : Clock ticks globals) {receive : Receive}
    (goesOn : (SpaceInvaders.step mode ⟨.gameState, globals⟩ receive).control = .gameState) :
    Clock (ticks + receive.ticks) (SpaceInvaders.step mode ⟨.gameState, globals⟩ receive).globals := by
  rw [step_goesOn rfl goesOn]
  cases receive with
  | failed => exact clock
  | ignored => exact clock
  | hardware keyboard timer =>
    cases timer with
    | none => exact (clock.input keyboard).1
    | some answers => exact ((clock.input keyboard).1.tick answers).1

/-- The live score of the counters. -/
def live (globals : Globals) : Int :=
  scoreOf globals.score.currentScore.bulletsFired globals.score.currentScore.gameTimeSeconds

/-- A key does not raise the live score. -/
theorem live_input (clock : Clock ticks globals) (keyboard : Option Ports) :
    live (gameInput mode keyboard globals) ≤ live globals := by
  obtain ⟨⟨_, _, time, _⟩, more⟩ := @input mode _ _ clock keyboard
  unfold live scoreOf
  rw [time, clock.time]
  omega

/-- A whole tick counts one further, and does not raise the live score. -/
theorem ticked (clock : Clock ticks globals) (keyboard : Option Ports) (answers : Answers) :
    Clock (ticks + 1) (tickGlobals mode keyboard answers globals) ∧
      live (tickGlobals mode keyboard answers globals) ≤ live globals := by
  have pressed := (@input mode _ _ clock keyboard).1
  obtain ⟨after, fired⟩ := @tick mode _ _ pressed answers
  have low := @live_input mode _ _ clock keyboard
  refine ⟨after, le_trans ?_ low⟩
  have later : ((ticks / 60 : Nat) : Int) ≤ ((ticks + 1) / 60 : Nat) := by omega
  show scoreOf (gameTick mode answers (gameInput mode keyboard globals)).score.currentScore.bulletsFired
      (gameTick mode answers (gameInput mode keyboard globals)).score.currentScore.gameTimeSeconds ≤ _
  rw [fired, after.time]
  unfold live scoreOf
  rw [pressed.time]
  omega

end Clock

theorem clock_started (mode : ModeInfo) (globals : Globals) :
    Clock 0 (startedGlobals mode globals) :=
  ⟨rfl, rfl, rfl, le_rfl⟩

/-! ### What a game shows -/

/-- The numbers a message to a running game draws. -/
def shownScore (mode : ModeInfo) (program : Program) : Receive → Option LiveScore
  | .hardware keyboard (some answers) =>
    if drawsFrame mode (tickGlobals mode keyboard answers program.globals).arena then
      some (drawLiveScore (tickGlobals mode keyboard answers program.globals).score.currentScore)
    else none
  | _ => none

/-- The numbers shown fit a game that has seen `ticks` timer ticks. -/
structure ShowsTrue (ticks : Nat) (shown : LiveScore) : Prop where
  time : shown.time = (ticks / 60 : Nat)
  score : shown.score = max 100 (10000 - 50 * shown.shots - 10 * (ticks / 60 : Nat))
  bounds : 100 ≤ shown.score ∧ shown.score ≤ 10000

theorem Clock.showsTrue {ticks : Nat} {globals : Globals} (clock : Clock ticks globals) :
    ShowsTrue ticks (drawLiveScore globals.score.currentScore) := by
  have score := drawLiveScore_score globals.score.currentScore
  refine ⟨clock.time, ?_, ?_⟩
  · rw [score, clock.time]
    rfl
  · rw [score]
    exact scoreOf_bounds clock.fired (by rw [clock.time]; exact Int.natCast_nonneg _)

/-- The invariant of the frames shown so far. -/
structure ShownSoFar (log : List LiveScore) (program : Program) : Prop where
  each : ∀ (index : Nat) shown, log[index]? = some shown → ShowsTrue (index + 1) shown
  falls : log.Pairwise fun earlier later => later.score ≤ earlier.score
  clock : program.control = .gameState →
    Clock log.length program.globals ∧ ∀ shown ∈ log, Clock.live program.globals ≤ shown.score

namespace ShownSoFar

variable {mode : ModeInfo} {log : List LiveScore} {globals : Globals}

/-- A frame is added to the log. -/
theorem add (shown : ShownSoFar log ⟨.gameState, globals⟩) (keyboard : Option Ports)
    (answers : Answers) {after : Program}
    (rest : after.control = .gameState →
      after.globals = tickGlobals mode keyboard answers globals) :
    ShownSoFar
      (log ++ [drawLiveScore (tickGlobals mode keyboard answers globals).score.currentScore])
      after := by
  obtain ⟨each, falls, clock⟩ := shown
  obtain ⟨clock, above⟩ := clock rfl
  obtain ⟨ticked, low⟩ := @Clock.ticked mode _ _ clock keyboard answers
  have score := drawLiveScore_score (tickGlobals mode keyboard answers globals).score.currentScore
  refine ⟨fun index frame at' => ?_, ?_, fun goesOn => ?_⟩
  · rcases Nat.lt_or_ge index log.length with early | last
    · rw [List.getElem?_append_left early] at at'
      exact each index frame at'
    · rw [List.getElem?_append_right last] at at'
      obtain ⟨inside, same⟩ := List.getElem?_eq_some_iff.mp at'
      rw [List.length_singleton] at inside
      rw [List.getElem_singleton] at same
      have index_eq : index = log.length := by omega
      rw [← same, index_eq]
      exact ticked.showsTrue
  · refine List.pairwise_append.mpr ⟨falls, List.pairwise_singleton _ _, ?_⟩
    intro earlier member frame last
    rw [List.mem_singleton.mp last, score]
    exact le_trans low (above earlier member)
  · rw [rest goesOn, List.length_append, List.length_singleton]
    refine ⟨ticked, fun frame member => ?_⟩
    rcases List.mem_append.mp member with before | last
    · exact le_trans low (above frame before)
    · rw [List.mem_singleton.mp last, score]
      exact le_rfl

/-- **One message of a game.** -/
theorem step {program : Program} {receive : Receive} (shown : ShownSoFar log program)
    (running : program.control = .gameState) :
    ShownSoFar (log ++ (shownScore mode program receive).toList)
      (SpaceInvaders.step mode program receive) := by
  obtain ⟨control, globals⟩ := program
  cases running
  have quiet (receive : Receive) (silent : shownScore mode ⟨.gameState, globals⟩ receive = none)
      (goes : (SpaceInvaders.step mode ⟨.gameState, globals⟩ receive).control = .gameState →
        Clock log.length (SpaceInvaders.step mode ⟨.gameState, globals⟩ receive).globals ∧
        Clock.live (SpaceInvaders.step mode ⟨.gameState, globals⟩ receive).globals ≤
          Clock.live globals) :
      ShownSoFar (log ++ (shownScore mode ⟨.gameState, globals⟩ receive).toList)
        (SpaceInvaders.step mode ⟨.gameState, globals⟩ receive) := by
    rw [silent, Option.toList_none, List.append_nil]
    refine ⟨shown.each, shown.falls, fun goesOn => ?_⟩
    obtain ⟨clock, low⟩ := goes goesOn
    exact ⟨clock, fun frame member => le_trans low ((shown.clock rfl).2 frame member)⟩
  have clock := (shown.clock rfl).1
  cases receive with
  | failed => exact quiet _ rfl fun goesOn => by rw [step_goesOn rfl goesOn]; exact ⟨clock, le_rfl⟩
  | ignored => exact quiet _ rfl fun goesOn => by rw [step_goesOn rfl goesOn]; exact ⟨clock, le_rfl⟩
  | hardware keyboard timer =>
    cases timer with
    | none =>
      refine quiet _ rfl fun goesOn => ?_
      rw [step_goesOn rfl goesOn]
      exact ⟨(clock.input keyboard).1, clock.live_input keyboard⟩
    | some answers =>
      by_cases drawn : drawsFrame mode (tickGlobals mode keyboard answers globals).arena = true
      · have frame : shownScore mode ⟨.gameState, globals⟩ (.hardware keyboard (some answers)) =
            some (drawLiveScore (tickGlobals mode keyboard answers globals).score.currentScore) :=
          if_pos drawn
        rw [frame]
        exact shown.add keyboard answers fun goesOn => by rw [step_goesOn rfl goesOn]; rfl
      · refine quiet _ (if_neg drawn) fun goesOn => absurd ?_ drawn
        exact (finishTick_goesOn goesOn).1

end ShownSoFar

/-- What is shown over the messages of a game. -/
def shownScores (mode : ModeInfo) (opening : Program) (messages : List Receive) : List LiveScore :=
  Runs.outputs (step mode) (shownScore mode) opening messages

theorem shownSoFar_run {mode : ModeInfo} {opening : Program} (starts : GameStarts mode opening)
    {messages : List Receive} (plays : Plays mode opening messages) :
    ShownSoFar (shownScores mode opening messages) (run mode opening messages) := by
  refine @Runs.run_recorded _ _ (step mode) _ (shownScore mode) ShownSoFar _
    (fun log program receive shown running => shown.step running) [] opening ?_ messages plays
  obtain ⟨globals, rfl⟩ := starts.eq_started
  refine ⟨fun index frame at' => ?_, List.Pairwise.nil, fun _ => ⟨clock_started mode globals, ?_⟩⟩
  · cases at'
  · exact fun frame member => by cases member

/-- The clock of a running game. -/
theorem clock_run {mode : ModeInfo} {opening : Program} (starts : GameStarts mode opening)
    {messages : List Receive} (plays : Plays mode opening messages)
    (running : (run mode opening messages).control = .gameState) :
    Clock (Runs.total (step mode) (fun _ receive => receive.ticks) opening messages)
      (run mode opening messages).globals := by
  have clock : (run mode opening messages).control = .gameState →
      Clock (0 + Runs.total (step mode) (fun _ receive => receive.ticks) opening messages)
        (run mode opening messages).globals := by
    refine @Runs.run_counted _ _ _
      (fun ticks program => program.control = .gameState → Clock ticks program.globals) _ _
      ?_ _ _ ?_ _ plays
    · rintro ticks ⟨control, globals⟩ receive clock rfl goesOn
      exact (clock rfl).step goesOn
    · obtain ⟨globals, rfl⟩ := starts.eq_started
      exact fun _ => clock_started mode globals
  have counted := clock running
  rwa [Nat.zero_add] at counted

/-! ### The final score -/

/-- At the end of a game by the tick of this message, the final score is the live score just drawn, and
it is returned again. -/
structure FinalAgrees (mode : ModeInfo) (program : Program) (keyboard : Option Ports)
    (answers : Answers) : Prop where
  shown : ∃ shown, shownScore mode program (.hardware keyboard (some answers)) = some shown ∧
    scoreCalculateFinalReturn (tickGlobals mode keyboard answers program.globals).score = shown.score
  stored : (step mode program (.hardware keyboard (some answers))).globals.score.currentScore.finalScore
    = scoreCalculateFinalReturn (tickGlobals mode keyboard answers program.globals).score
  again : ∀ calls : List ScoreCall, (∀ call ∈ calls, ¬ call.Restarts) →
    scoreCalculateFinalReturn (Runs.run ScoreCall.apply
        (scoreCalculateFinal (tickGlobals mode keyboard answers program.globals).score) calls) =
      scoreCalculateFinalReturn (tickGlobals mode keyboard answers program.globals).score

@[simp] theorem saveWinHighscore_currentScore (roll : Nat) (outcome : FileOutcome) (score : Score) :
    (saveWinHighscore roll outcome score).currentScore = score.currentScore := by
  unfold saveWinHighscore
  split <;> rfl

/-- A game that is lost or won stores its final score. -/
theorem finishTick_finalScore {mode : ModeInfo} {answers : Answers} {ticked : Globals}
    (ended : tickOutcome mode ticked = .lost ∨ tickOutcome mode ticked = .won) :
    (finishTick mode answers ticked).globals.score.currentScore =
      (scoreCalculateFinal ticked.score).currentScore := by
  rw [finishTick_eq]
  rcases ended with lost | won
  · rw [lost]
    show (menuHandlerLoop _).globals.score.currentScore = _
    rw [menuHandlerLoop_globals]
  · rw [won]
    show (menuHandlerLoop _).globals.score.currentScore = _
    rw [menuHandlerLoop_globals]
    exact saveWinHighscore_currentScore _ _ _

theorem Clock.finalAgrees {mode : ModeInfo} {ticks : Nat} {program : Program}
    (clock : Clock ticks program.globals) (running : program.control = .gameState)
    {keyboard : Option Ports} {answers : Answers}
    (ended : tickOutcome mode (tickGlobals mode keyboard answers program.globals) = .lost ∨
      tickOutcome mode (tickGlobals mode keyboard answers program.globals) = .won) :
    FinalAgrees mode program keyboard answers := by
  have ticked := (@Clock.ticked mode _ _ clock keyboard answers).1
  have drawn : drawsFrame mode (tickGlobals mode keyboard answers program.globals).arena = true := by
    apply tickOutcome_drawn
    rcases ended with lost | won
    · rw [lost]
      exact fun same => by cases same
    · rw [won]
      exact fun same => by cases same
  refine ⟨⟨_, if_pos drawn, ?_⟩, ?_, fun calls keep => scoreCalculateFinalReturn_again _ keep⟩
  · rw [scoreCalculateFinalReturn_eq ticked.counting, drawLiveScore_score]
  · rw [step_tick running, finishTick_finalScore ended]
    rfl

/-- The keys from a lost game to its score screen and on: ENTER, the entry Scores, ENTER again. -/
def leaveLoss : List Receive :=
  [press kbEnter, press kbDownArrow, press kbEnter, timerTick 0, press kbEnter]

theorem along_leaveLoss {program : Program}
    (quiet : ∀ length < 5,
      (run mode14C program (leaveLoss.take (length + 1))).control ≠ .gameState) :
    Runs.Along (step mode14C)
      (fun program receive => (step mode14C program receive).control ≠ .gameState) program leaveLoss :=
  ⟨quiet 0 (by decide), quiet 1 (by decide), quiet 2 (by decide), quiet 3 (by decide),
    quiet 4 (by decide), trivial⟩

end SpaceInvaders
