/-
**How a tick ends, and what happens around the games.**

After its drawing a tick of a game has one of four outcomes (`finishTick_eq`): a checked drawing call
failed, the game is lost, it is won, or it goes on.

* `Outside`: the changes of the variables outside games, with the rule `Outside.step`;
* `Reachable.inGame`: the rule for what holds while a game runs;
* `running_game`: every running game has begun somewhere in the run.
-/

import SpaceInvaders.Game.Rule

namespace SpaceInvaders

/-- What becomes of a game at the end of a tick. -/
inductive Outcome
  | undrawn
  | lost
  | won
  | goesOn
deriving DecidableEq

/-- The variables of a game when a tick has done everything but its drawing. -/
def tickGlobals (mode : ModeInfo) (keyboard : Option Ports) (answers : Answers) (globals : Globals) :
    Globals :=
  gameTick mode answers (gameInput mode keyboard globals)

/-- The outcome of a tick with these variables. -/
def tickOutcome (mode : ModeInfo) (ticked : Globals) : Outcome :=
  if ¬ drawsFrame mode ticked.arena then .undrawn
  else if ticked.playerLost then .lost
  else if countActiveEnemies ticked.arena = 0 then .won
  else .goesOn

/-- **The end of a tick** follows its outcome. -/
theorem finishTick_eq (mode : ModeInfo) (answers : Answers) (ticked : Globals) :
    finishTick mode answers ticked =
      match tickOutcome mode ticked with
      | .undrawn => ⟨.returned 1, ticked⟩
      | .lost => loseGame ticked
      | .won => winGame answers ticked
      | .goesOn => gameStateLoop ticked := by
  unfold finishTick tickOutcome
  split
  · rfl
  split
  · rfl
  split <;> rfl

theorem tickOutcome_drawn {mode : ModeInfo} {ticked : Globals}
    (drawn : tickOutcome mode ticked ≠ .undrawn) : drawsFrame mode ticked.arena = true := by
  by_contra fails
  exact drawn (if_pos fails)

theorem tickOutcome_lost_iff {mode : ModeInfo} {ticked : Globals}
    (drawn : tickOutcome mode ticked ≠ .undrawn) :
    tickOutcome mode ticked = .lost ↔ ticked.playerLost = true := by
  have frame := tickOutcome_drawn drawn
  unfold tickOutcome
  rw [if_neg (not_not.mpr frame)]
  split
  · rename_i lost
    exact iff_of_true rfl lost
  · rename_i clear
    refine iff_of_false ?_ clear
    split
    · exact fun same => by cases same
    · exact fun same => by cases same

theorem tickOutcome_unhit {mode : ModeInfo} {ticked : Globals}
    (unhit : tickOutcome mode ticked = .won ∨ tickOutcome mode ticked = .goesOn) :
    ticked.playerLost = false := by
  rw [← Bool.not_eq_true, ← @tickOutcome_lost_iff mode]
  · rcases unhit with won | goesOn
    · rw [won]
      decide
    · rw [goesOn]
      decide
  · rcases unhit with won | goesOn
    · rw [won]
      decide
    · rw [goesOn]
      decide

/-- A tick of a running game. -/
theorem step_tick {mode : ModeInfo} {program : Program} (running : program.control = .gameState)
    (keyboard : Option Ports) (answers : Answers) :
    step mode program (.hardware keyboard (some answers)) =
      finishTick mode answers (tickGlobals mode keyboard answers program.globals) := by
  obtain ⟨control, globals⟩ := program
  cases running
  rfl

/-! ### Outside games -/

/-- The variables when `score_state` has been left. -/
def leftScores (globals : Globals) : Globals :=
  { globals with
    playerWin := false
    playerLost := false
    showScoresDrawn := false
    score := scoreReset globals.score
    menu := menuSetState .main globals.menu }

/-- The variables when a game has been left by ESC. -/
def leftGame (globals : Globals) : Globals :=
  { globals with score := scoreReset globals.score, menu := menuSetState .main globals.menu }

/-- A predicate on the variables that everything outside games preserves, the start of a game and its
end by ESC included. -/
structure Outside (mode : ModeInfo) (P : Globals → Prop) : Prop where
  menu : ∀ globals scancode menu, P globals → P { globals with scancode := scancode, menu := menu }
  clock : ∀ globals, P globals → P { globals with timerCounter := globals.timerCounter + 1 }
  started : ∀ globals, P globals → P (startedGlobals mode globals)
  leftGame : ∀ globals, P globals → P (leftGame globals)
  shown : ∀ globals, P globals → P { globals with showScoresDrawn := true }
  leftScores : ∀ globals, P globals → P (leftScores globals)

namespace Outside

variable {mode : ModeInfo} {P : Globals → Prop} {globals : Globals}

theorem gameStateLoop (outside : Outside mode P) (holds : P globals) :
    P (gameStateLoop globals).globals := by
  unfold SpaceInvaders.gameStateLoop
  split
  · rw [menuHandlerLoop_globals]
    exact outside.leftGame globals holds
  · exact holds

theorem scoreStateLoop (outside : Outside mode P) (holds : P globals) :
    P (scoreStateLoop globals).globals := by
  unfold SpaceInvaders.scoreStateLoop leaveScores
  split
  · rw [menuHandlerLoop_globals]
    exact outside.leftScores globals holds
  · exact holds

theorem menuInput (outside : Outside mode P) (holds : P globals) (keyboard : Option Ports) :
    P (menuInput keyboard globals) := by
  cases keyboard with
  | none => exact holds
  | some ports => exact outside.menu globals _ _ holds

theorem menuTimer (outside : Outside mode P) (holds : P globals) :
    P (menuTimer mode globals).globals := by
  have ticked := outside.clock globals holds
  simp only [SpaceInvaders.menuTimer]
  split
  · unfold startGame
    split
    · exact ticked
    · exact outside.gameStateLoop (outside.started _ ticked)
  · unfold showScores
    split
    · exact outside.scoreStateLoop (outside.shown _ ticked)
    · exact ticked
  · exact ticked
  · rw [menuHandlerLoop_globals]
    exact outside.menu _ globals.scancode _ ticked

/-- **A message outside games.** -/
theorem step (outside : Outside mode P) {program : Program} (idle : program.control ≠ .gameState)
    (holds : P program.globals) (receive : Receive) : P (step mode program receive).globals := by
  obtain ⟨control, globals⟩ := program
  have quiet : P (menuHandlerLoop globals).globals := by
    rw [menuHandlerLoop_globals]
    exact holds
  cases control with
  | gameState => exact absurd rfl idle
  | returned code => exact holds
  | menuHandler =>
    cases receive with
    | failed => exact quiet
    | ignored => exact quiet
    | hardware keyboard timer =>
      have input := outside.menuInput holds keyboard
      cases timer with
      | none =>
        show P (menuHandlerLoop (SpaceInvaders.menuInput keyboard globals)).globals
        rw [menuHandlerLoop_globals]
        exact input
      | some answers => exact outside.menuTimer input
  | scoreState =>
    cases receive with
    | failed => exact outside.scoreStateLoop holds
    | ignored => exact outside.scoreStateLoop holds
    | hardware keyboard timer =>
      cases keyboard with
      | none => exact outside.scoreStateLoop holds
      | some ports =>
        have pressed := outside.menu globals (kbcIh ports globals.scancode) globals.menu holds
        show P (if _ then leaveScores _ else SpaceInvaders.scoreStateLoop _ : Program).globals
        split
        · unfold leaveScores
          rw [menuHandlerLoop_globals]
          exact outside.leftScores _ pressed
        · exact outside.scoreStateLoop pressed

end Outside

/-! ### Inside games -/

/-- **The rule of the running game**: what holds at its start, and is kept by the messages that do not
end it, holds while it runs. -/
theorem Reachable.inGame {mode : ModeInfo} {P : Globals → Prop}
    (started : ∀ globals, globals.menu.currentState = .start → P (startedGlobals mode globals))
    (goesOn : ∀ globals receive, P globals →
      (SpaceInvaders.step mode ⟨.gameState, globals⟩ receive).control = .gameState →
      P (messageGlobals mode globals receive))
    {program : Program} (reached : Reachable mode program) (running : program.control = .gameState) :
    P program.globals := by
  revert running
  refine @Reachable.induction mode (fun program => program.control = .gameState → P program.globals)
    (fun csv running => absurd running (menuHandlerLoop_ne_gameState _))
    (fun before receive holds running => ?_) program reached
  rcases control_before running with plays | waits
  · rw [step_goesOn plays running]
    refine goesOn _ _ (holds plays) ?_
    obtain ⟨control, globals⟩ := before
    cases plays
    exact running
  · obtain ⟨_, _, _, state, same⟩ := step_starts waits running
    rw [same]
    exact started _ state

/-- **Every running game has begun**: the messages so far lead to its start, and then play it. -/
theorem running_game {mode : ModeInfo} {csv : Option (List UInt8)} {messages : List Receive}
    (running : (run mode (start csv) messages).control = .gameState) :
    ∃ prior game, messages = prior ++ game ∧ GameStarts mode (run mode (start csv) prior) ∧
      Plays mode (run mode (start csv) prior) game := by
  induction messages using List.reverseRecOn with
  | nil => exact absurd running (menuHandlerLoop_ne_gameState (initGame csv))
  | append_singleton messages receive ih =>
    rw [run, Runs.run_snoc] at running
    rcases control_before running with plays | waits
    · obtain ⟨prior, game, rfl, starts, along⟩ := ih plays
      refine ⟨prior, game ++ [receive], List.append_assoc _ _ _, starts, ?_⟩
      rw [Runs.run_append] at plays
      exact Runs.along_append.mpr ⟨along, plays, trivial⟩
    · refine ⟨messages ++ [receive], [], (List.append_nil _).symm, ?_, trivial⟩
      rw [run, Runs.run_snoc]
      exact ⟨_, receive, ⟨csv, messages, rfl⟩, waits, rfl, running⟩

/-- A game that is lost at its 82nd tick: one key to the left, and a column of shots at the ship. -/
def loss : List Receive :=
  [press kbEnter, timerTick 0, press kbA] ++ List.replicate 81 (timerTick 14)

end SpaceInvaders
