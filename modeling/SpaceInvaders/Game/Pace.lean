/-
**The pace of the shots, and the best score.**

A launch restarts the fire delay, so the shots of a game are 30 ticks apart (`Paced`), whatever the
keyboard does. Together with the length of a game this bounds everything its score is computed from, and
together with the account of the shots it bounds the score from above: 18 enemies cost 18 shots, and the
last of them is launched in the ninth second.

* `counters_bounded`: in every state of every game the counters are small, and no product or difference
  of the two score formulas leaves the range of an `int`;
* `best_score`: 9020 is the highest score any run can bring into the high-score file, and a run does.
-/

import SpaceInvaders.Game.Ending
import SpaceInvaders.Game.Results
import SpaceInvaders.Game.ShotCount
import Mathlib.Order.Bounds.Defs

namespace SpaceInvaders

/-! ### The pace of the shots -/

/-- What a key does to the fire delay: it can only restart it, and a launch waits until it is counted
off. -/
theorem shipAction_delay (mode : ModeInfo) (scancode : UInt8) {arena : Arena}
    (counted : 0 ≤ arena.fireDelayCounter) :
    0 ≤ (shipAction mode scancode arena).fireDelayCounter ∧
      (shipAction mode scancode arena).fireDelayCounter ≤ arena.fireDelayCounter ∧
      (launchesBullet scancode arena = true → 30 ≤ arena.fireDelayCounter ∧
        (shipAction mode scancode arena).fireDelayCounter = 0) := by
  have launch : launchesBullet scancode arena = true →
      scancode = kbSpace ∧ arena.fireDelayCounter ≥ 30 := by
    unfold launchesBullet
    rw [Bool.and_eq_true, Bool.and_eq_true, decide_eq_true_eq, decide_eq_true_eq]
    exact And.left
  by_cases space : scancode = kbSpace
  · subst space
    rw [shipAction_space]
    by_cases ready : arena.fireDelayCounter ≥ 30
    · rw [if_pos ready]
      exact ⟨le_rfl, counted, fun _ => ⟨ready, rfl⟩⟩
    · rw [if_neg ready]
      exact ⟨counted, le_rfl, fun fires => absurd (launch fires).2 ready⟩
  · have same : (shipAction mode scancode arena).fireDelayCounter = arena.fireDelayCounter := by
      unfold shipAction
      rw [if_neg space]
      split
      · split <;> rfl
      · split <;> rfl
    rw [same]
    exact ⟨counted, le_rfl, fun fires => absurd (launch fires).1 space⟩

/-- The shots of a game that has seen `ticks` ticks: all but the first have waited 30 ticks for the one
before, and the delay has been counted since the last. -/
structure Paced (ticks : Nat) (globals : Globals) : Prop where
  counting : globals.score.gameActive = true
  delay : 0 ≤ globals.arena.fireDelayCounter
  fired : 0 ≤ globals.score.currentScore.bulletsFired
  pace : globals.score.currentScore.bulletsFired = 0 ∨
    30 * (globals.score.currentScore.bulletsFired - 1) + globals.arena.fireDelayCounter ≤ ticks

namespace Paced

variable {mode : ModeInfo} {ticks : Nat} {globals : Globals}

/-- A key that launches a bullet has waited for it. -/
theorem input (paced : Paced ticks globals) (keyboard : Option Ports) :
    Paced ticks (gameInput mode keyboard globals) := by
  obtain ⟨counting, delay, fired, pace⟩ := paced
  cases keyboard with
  | none => exact ⟨counting, delay, fired, pace⟩
  | some ports =>
    show Paced ticks (gameKeyboard mode ports globals)
    obtain ⟨low, less, waits⟩ := shipAction_delay mode (kbcIh ports globals.scancode) delay
    unfold gameKeyboard
    simp only
    split
    · exact ⟨counting, delay, fired, pace⟩
    by_cases launches : launchesBullet (kbcIh ports globals.scancode) globals.arena = true
    · have counts : scoreAddBullet globals.score =
          { globals.score with
            currentScore :=
              { globals.score.currentScore with
                bulletsFired := globals.score.currentScore.bulletsFired + 1 } } := if_pos counting
      obtain ⟨ready, restarts⟩ := waits launches
      rw [if_pos launches, counts]
      refine ⟨counting, low, Int.add_nonneg fired (by decide), .inr ?_⟩
      show 30 * (globals.score.currentScore.bulletsFired + 1 - 1) +
        (shipAction mode (kbcIh ports globals.scancode) globals.arena).fireDelayCounter ≤ (ticks : Int)
      omega
    · rw [if_neg launches]
      exact ⟨counting, low, fired, pace.imp id fun paid => by
        show 30 * (globals.score.currentScore.bulletsFired - 1) +
          (shipAction mode (kbcIh ports globals.scancode) globals.arena).fireDelayCounter ≤ (ticks : Int)
        omega⟩

/-- A tick counts the delay and the game one further. -/
theorem tick (paced : Paced ticks globals) (answers : Answers) :
    Paced (ticks + 1) (gameTick mode answers globals) := by
  obtain ⟨counting, delay, fired, pace⟩ := paced
  have updates := gameTick_score mode answers counting
  have counted : (gameTick mode answers globals).arena.fireDelayCounter =
      globals.arena.fireDelayCounter + 1 := tickArena_fireDelayCounter mode _ _ _ globals.playerLost
  refine ⟨by rwa [updates], by rw [counted]; omega, by rwa [updates], ?_⟩
  rw [updates, counted]
  show globals.score.currentScore.bulletsFired = 0 ∨
    30 * (globals.score.currentScore.bulletsFired - 1) + (globals.arena.fireDelayCounter + 1) ≤ _
  push_cast
  omega

/-- The pace of a game that a message does not end. -/
theorem step (paced : Paced ticks globals) {receive : Receive}
    (goesOn : (SpaceInvaders.step mode ⟨.gameState, globals⟩ receive).control = .gameState) :
    Paced (ticks + receive.ticks) (SpaceInvaders.step mode ⟨.gameState, globals⟩ receive).globals := by
  rw [step_goesOn rfl goesOn]
  cases receive with
  | failed => exact paced
  | ignored => exact paced
  | hardware keyboard timer =>
    cases timer with
    | none => exact paced.input keyboard
    | some answers => exact (paced.input keyboard).tick answers

/-- The number of the shots. -/
theorem shots (paced : Paced ticks globals) :
    globals.score.currentScore.bulletsFired ≤ (ticks / 30 : Nat) + 1 := by
  have delay := paced.delay
  rcases paced.pace with none | paid
  · omega
  · omega

end Paced

/-- The pace of a running game. -/
theorem paced_run {mode : ModeInfo} {opening : Program} (starts : GameStarts mode opening)
    {messages : List Receive} (plays : Plays mode opening messages)
    (running : (run mode opening messages).control = .gameState) :
    Paced (ticksOf messages) (run mode opening messages).globals := by
  have paced : (run mode opening messages).control = .gameState →
      Paced (0 + Runs.total (step mode) (fun _ receive => receive.ticks) opening messages)
        (run mode opening messages).globals := by
    refine @Runs.run_counted _ _ _
      (fun ticks program => program.control = .gameState → Paced ticks program.globals) _ _ ?_ _ _ ?_ _
      plays
    · rintro ticks ⟨control, globals⟩ receive paced rfl goesOn
      exact (paced rfl).step goesOn
    · have rest := ((spread_invariant mode).reachable starts.reachable).1.1
      obtain ⟨globals, rfl⟩ := starts.eq_started
      exact fun _ => ⟨rfl, rest, le_rfl, .inl rfl⟩
  have counted := paced running
  rwa [Nat.zero_add, total_ticks] at counted

/-- The range of a C `int`. -/
def InInt (value : Int) : Prop := -2 ^ 31 ≤ value ∧ value < 2 ^ 31

/-- **The counters of a game stay small.** In every state of every game at most one shot has been fired
in 30 ticks, and the game has ended before its 33480th tick; so nothing that `draw_live_score` and
`score_calculate_final` compute leaves the range of an `int`. -/
theorem counters_bounded {opening : Program} (starts : GameStarts mode14C opening)
    {messages : List Receive} (plays : Plays mode14C opening messages)
    (running : (run mode14C opening messages).control = .gameState)
    {current : GameScore}
    (shown : current = (run mode14C opening messages).globals.score.currentScore) :
    (0 ≤ current.bulletsFired ∧ current.bulletsFired ≤ (ticksOf messages / 30 : Nat) + 1) ∧
      current.gameTimeSeconds = (ticksOf messages / 60 : Nat) ∧ ticksOf messages < 33480 ∧
      current.bulletsFired ≤ 1116 ∧ current.gameTimeSeconds ≤ 557 ∧
      InInt (current.bulletsFired * 50) ∧ InInt (current.gameTimeSeconds * 10) ∧
      InInt (10000 - current.bulletsFired * 50) ∧
      InInt (10000 - current.bulletsFired * 50 - current.gameTimeSeconds * 10) := by
  have paced := paced_run starts plays running
  have shots := paced.shots
  have fired := paced.fired
  have time := (clock_run starts plays running).time
  rw [total_ticks] at time
  have more : Plays mode14C opening (messages ++ [timerTick 0]) :=
    Runs.along_append.mpr ⟨plays, running, trivial⟩
  have few := ticks_of_plays starts more
  have counted : ticksOf (messages ++ [timerTick 0]) = ticksOf messages + 1 := by
    rw [ticksOf, List.map_append, List.sum_append]
    rfl
  rw [counted] at few
  subst shown
  refine ⟨⟨fired, shots⟩, time, few, ?_⟩
  rw [time]
  unfold InInt
  omega

/-- The counters while nobody is at the keyboard. -/
theorem counters_bounded_firstGame :
    (GameStarts mode14C (run mode14C (start none) [press kbEnter, timerTick 0]) ∧
      Plays mode14C (run mode14C (start none) [press kbEnter, timerTick 0]) [press kbSpace] ∧
      (run mode14C (run mode14C (start none) [press kbEnter, timerTick 0])
        [press kbSpace]).control = .gameState) ∧
    (⟨1, 0, 0⟩ : GameScore).bulletsFired ≤ (ticksOf [press kbSpace] / 30 : Nat) + 1 := by
  have plays : Plays mode14C (run mode14C (start none) [press kbEnter, timerTick 0])
      [press kbSpace] := ⟨by decide, trivial⟩
  exact ⟨⟨gameStarts_firstGame, plays, by decide⟩,
    (counters_bounded gameStarts_firstGame plays (by decide) (by decide +kernel)).1.2⟩

/-- The counters behind a tick. -/
theorem ticked_counters {program : Program} (reached : Reachable mode14C program)
    (running : program.control = .gameState) (keyboard : Option Ports) (answers : Answers)
    {current : GameScore}
    (ticked : current = (tickGlobals mode14C keyboard answers program.globals).score.currentScore) :
    0 ≤ current.bulletsFired ∧ current.bulletsFired ≤ 1117 ∧
      0 ≤ current.gameTimeSeconds ∧ current.gameTimeSeconds ≤ 558 := by
  obtain ⟨csv, messages, rfl⟩ := reached
  obtain ⟨prior, game, rfl, starts, plays⟩ := running_game running
  rw [run_append] at running ticked
  have few := (counters_bounded starts plays running rfl).2.2.1
  have clock := (@Clock.ticked mode14C _ _ (clock_run starts plays running) keyboard answers).1
  have paced := @Paced.tick mode14C _ _
    (@Paced.input mode14C _ _ (paced_run starts plays running) keyboard) answers
  have shots := paced.shots
  have time := clock.time
  rw [total_ticks] at time
  have fired := clock.fired
  subst ticked
  change (tickGlobals mode14C keyboard answers _).score.currentScore.bulletsFired ≤ _ at shots
  omega

/-! ### The best score -/

/-- The account of the shots of a running game. -/
theorem shotsBalance_run {mode : ModeInfo} {opening : Program} (starts : GameStarts mode opening)
    {messages : List Receive} (plays : Plays mode opening messages)
    (running : (run mode opening messages).control = .gameState) :
    ShotsBalance (Runs.total (step mode) (bulletsExpired mode) opening messages)
      (run mode opening messages).globals := by
  have account : (run mode opening messages).control = .gameState →
      ShotsBalance (0 + Runs.total (step mode) (bulletsExpired mode) opening messages)
        (run mode opening messages).globals := by
    refine @Runs.run_counted _ _ _
      (fun expired program => program.control = .gameState → ShotsBalance expired program.globals) _ _
      ?_ _ _ ?_ _ plays
    · rintro expired ⟨control, globals⟩ receive account rfl goesOn
      exact (account rfl).step goesOn
    · obtain ⟨globals, rfl⟩ := starts.eq_started
      exact fun _ => shotsBalance_started mode globals
  have balance := account running
  rwa [Nat.zero_add] at balance

/-- **What a win costs**: 18 shots and eight seconds. -/
theorem winRow_costs {mode : ModeInfo} {opening : Program} (starts : GameStarts mode opening)
    {messages : List Receive} (plays : Plays mode opening messages) {receive : Receive}
    {entry : HighScoreEntry} (won : winRow mode (run mode opening messages) receive = some entry) :
    18 ≤ entry.bulletsFired ∧ 8 ≤ entry.gameTimeSeconds := by
  have running : (run mode opening messages).control = .gameState := by
    by_contra idle
    rw [winRow_of_idle idle] at won
    cases won
  have paced := paced_run starts plays running
  have account := shotsBalance_run starts plays running
  have clock := clock_run starts plays running
  cases receive with
  | failed => cases won
  | ignored => cases won
  | hardware keyboard timer =>
    cases timer with
    | none => cases won
    | some answers =>
      change (if _ then _ else _) = _ at won
      split at won
      · rename_i wins
        have dead : countActiveEnemies
            (tickGlobals mode keyboard answers (run mode opening messages).globals).arena = 0 := by
          have both := wins.2
          rw [SpaceInvaders.wins, Bool.and_eq_true, decide_eq_true_eq] at both
          exact both.2
        have account : ShotsBalance _
            (tickGlobals mode keyboard answers (run mode opening messages).globals) :=
          (account.input keyboard).tick answers
        have paced : Paced _
            (tickGlobals mode keyboard answers (run mode opening messages).globals) :=
          (paced.input keyboard).tick answers
        have time := (@Clock.ticked mode _ _ clock keyboard answers).1.time
        rw [total_ticks] at time
        revert won account paced time dead
        generalize tickGlobals mode keyboard answers (run mode opening messages).globals = ticked
        intro won dead account paced time
        have balance := account.balance
        have pace := paced.pace
        have delay := paced.delay
        rw [enemiesDestroyed, dead, maxEnemies] at balance
        cases won
        show 18 ≤ ticked.score.currentScore.bulletsFired ∧ 8 ≤ ticked.score.currentScore.gameTimeSeconds
        rw [time]
        omega
      · cases won

/-- **Every row a run brings into the high-score file** has cost 18 shots and eight seconds, and its score
is between 100 and 9020. -/
theorem winRows_bounds {mode : ModeInfo} {csv : Option (List UInt8)} {messages : List Receive}
    {entry : HighScoreEntry} (row : entry ∈ winRows mode csv messages) :
    18 ≤ entry.bulletsFired ∧ 8 ≤ entry.gameTimeSeconds ∧ 100 ≤ entry.score ∧ entry.score ≤ 9020 := by
  obtain ⟨before, receive, after, rfl, won⟩ := Runs.exists_step_of_mem_outputs row
  have running : (run mode (start csv) before).control = .gameState := by
    by_contra idle
    rw [winRow_of_idle idle] at won
    cases won
  obtain ⟨prior, game, rfl, starts, plays⟩ := running_game running
  rw [Runs.run_append] at won
  obtain ⟨shots, time⟩ := winRow_costs starts plays won
  have score := (ownResult_winRow starts plays won).score
  omega

/-- The keys of one shot, and the ticks to the next. -/
def volley (key : UInt8) (presses : Nat) : List Receive :=
  List.replicate presses (press key) ++ press kbSpace :: List.replicate 30 (timerTick 0)

/-- A game in which every shot hits: the columns from right to left, each from below, but for the last
column, whose uppermost enemy is shot first, past the other two. The next tick wins it. -/
def bestGame : List Receive :=
  [press kbEnter, timerTick 0] ++
    ([(kbD, 8), (kbD, 0), (kbD, 2), (kbA, 4), (kbD, 1), (kbD, 1), (kbA, 3), (kbD, 1), (kbD, 1),
      (kbA, 3), (kbD, 0), (kbD, 2), (kbA, 4), (kbD, 1), (kbA, 1), (kbD, 3), (kbA, 3)].flatMap
      fun shot => volley shot.1 shot.2) ++
    press kbSpace :: List.replicate 25 (timerTick 0)

theorem winRow_bestGame :
    winRow mode14C (run mode14C (start none) bestGame) (timerTick 0) =
      some ⟨getRandomAnimeName 0, 9020, 18, 8⟩ := by
  decide +kernel

/-- **The best score.** 9020 is the highest score a run of the program can bring into the high-score
file. -/
theorem best_score :
    IsGreatest {points | ∃ csv messages entry, entry ∈ winRows mode14C csv messages ∧
      entry.score = points} 9020 := by
  constructor
  · refine ⟨none, bestGame ++ [timerTick 0], ⟨getRandomAnimeName 0, 9020, 18, 8⟩, ?_, rfl⟩
    rw [winRows, Runs.outputs_append]
    refine List.mem_append_right _ (List.mem_append_left _ ?_)
    rw [winRow_bestGame, Option.toList_some]
    exact List.mem_singleton_self _
  · rintro points ⟨csv, messages, entry, row, rfl⟩
    exact (winRows_bounds row).2.2.2

end SpaceInvaders
