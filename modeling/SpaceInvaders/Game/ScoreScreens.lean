/-
**Which score screen is shown.**

The `MENU_SCORES` branch picks its screen by `player_win` and `player_lost`. Along the history of a run
(`Event`) the first says that the last event is a win, the second that the last event other than a choice of
Scores is a loss (`MenuFollows`). A won game leads straight to its result, which clears the flag; a lost
one leaves `player_lost` set behind GAME OVER and the main menu.

* `Tracks.step`: one message;
* `scores_screen_iff`: the runs in which every choice of Scores shows the table;
* `not_showsRight_loss`: Scores after a lost game.
-/

import SpaceInvaders.Control.Escape
import SpaceInvaders.Game.Results

namespace SpaceInvaders

/-! ### Events -/

/-- What a message can do: a game starts, is lost or won, Scores is chosen in the main menu, the score
screen is left. -/
inductive Event
  | started
  | lost
  | won
  | chosen
  | left
deriving DecidableEq

/-- The keyboard part of a notification chooses Scores in the main menu. -/
def choosesScores (keyboard : Option Ports) (globals : Globals) : Bool :=
  globals.menu.currentState = .main ∧ (menuInput keyboard globals).menu.currentState = .scores

/-- The event of a message. -/
def event (mode : ModeInfo) (program : Program) (receive : Receive) : Option Event :=
  match program.control, receive with
  | .menuHandler, .hardware keyboard _ =>
    if choosesScores keyboard program.globals then some .chosen
    else if (step mode program receive).control = .gameState then some .started
    else none
  | .gameState, _ =>
    if loses mode program.globals receive then some .lost
    else if wins mode program.globals receive then some .won
    else none
  | .scoreState, _ => if (step mode program receive).control = .scoreState then none else some .left
  | _, _ => none

/-- The message runs the `MENU_SCORES` branch. -/
def entersScores (program : Program) : Receive → Bool
  | .hardware keyboard (some _) =>
    program.control = .menuHandler ∧
      (menuInput keyboard program.globals).menu.currentState = .scores
  | _ => false

/-- The screen the branch draws, behind its test of `show_scores_drawn` and the clearing of the
screen. -/
def drawnScreen (mode : ModeInfo) (program : Program) : Receive → Option ScoresScreen
  | .hardware keyboard (some answers) =>
    if entersScores program (.hardware keyboard (some answers)) = true ∧
        program.globals.showScoresDrawn = false ∧
        vgDrawRectangle mode 0 0 mode.XResolution.toNat mode.YResolution.toNat = 0 then
      some (scoresScreen (menuInput keyboard program.globals))
    else none
  | _ => none

/-- The last event of a history that is no choice of Scores. -/
def lastOutcome (log : List Event) : Option Event :=
  (log.filter fun event => event ≠ .chosen).getLast?

/-- The history up to and including a message. -/
def logAfter (mode : ModeInfo) (history : List Event × Program) (receive : Receive) : List Event :=
  history.1 ++ (event mode history.2 receive).toList

/-- Whenever the message runs the branch: if Scores was chosen the table is drawn, and another screen is
drawn only straight from the game just won. -/
def ShowsRight (mode : ModeInfo) (history : List Event × Program) (receive : Receive) : Prop :=
  entersScores history.2 receive = true →
    ((logAfter mode history receive).getLast? = some .chosen →
      drawnScreen mode history.2 receive = some .scoreboard) ∧
    (drawnScreen mode history.2 receive ≠ some .scoreboard →
      (logAfter mode history receive).getLast? = some .won)

/-- Whenever the message runs the branch with Scores chosen, what happened last before was not the loss of
a game. -/
def NoLossPending (mode : ModeInfo) (history : List Event × Program) (receive : Receive) : Prop :=
  entersScores history.2 receive = true →
    (logAfter mode history receive).getLast? = some .chosen →
    lastOutcome (logAfter mode history receive) ≠ some .lost

/-! ### The flags follow the history -/

/-- The flags while `menu_handler` waits. -/
structure MenuFollows (log : List Event) (globals : Globals) : Prop where
  win : globals.playerWin = true ↔ log.getLast? = some .won
  lost : globals.playerLost = true ↔ lastOutcome log = some .lost
  fresh : globals.showScoresDrawn = false
  entered : globals.menu.currentState = .scores →
    log.getLast? = some .chosen ∨ log.getLast? = some .won
  straight : log.getLast? = some .won → globals.menu.currentState = .scores

/-- The invariant of histories. -/
def Tracks (history : List Event × Program) : Prop :=
  match history.2.control with
  | .menuHandler => MenuFollows history.1 history.2.globals
  | .gameState => InGame history.2.globals ∧ history.2.globals.showScoresDrawn = false
  | _ => True

theorem follows_returned (log : List Event) (code : Int) (globals : Globals) :
    Tracks (log, ⟨.returned code, globals⟩) := trivial

theorem follows_menuHandlerLoop {log : List Event} {globals : Globals}
    (follows : globals.scancode ≠ kbBreakEsc → MenuFollows log globals) :
    Tracks (log, menuHandlerLoop globals) := by
  unfold menuHandlerLoop
  split
  · exact follows_returned log 0 globals
  · rename_i other
    exact follows other

theorem follows_gameStateLoop {log : List Event} {globals : Globals} (inGame : InGame globals)
    (fresh : globals.showScoresDrawn = false) : Tracks (log, gameStateLoop globals) := by
  unfold gameStateLoop
  split
  · rename_i escape
    exact follows_menuHandlerLoop fun other => absurd escape other
  · exact ⟨inGame, fresh⟩

@[simp] theorem lastOutcome_chosen (log : List Event) :
    lastOutcome (log ++ [.chosen]) = lastOutcome log := by
  simp [lastOutcome]

@[simp] theorem lastOutcome_snoc (log : List Event) {event : Event} (other : event ≠ .chosen) :
    lastOutcome (log ++ [event]) = some event := by
  simp [lastOutcome, other]

/-- Keys other than the release of ESC lead to `MENU_SCORES` from the main menu only, and never out of
it. -/
theorem menuHandleInput_scores {scancode : UInt8} {menu : Menu} (other : scancode ≠ kbBreakEsc) :
    (menu.currentState = .scores → (menuHandleInput scancode menu).currentState = .scores) ∧
      ((menuHandleInput scancode menu).currentState = .scores →
        menu.currentState = .scores ∨ menu.currentState = .main) := by
  unfold menuHandleInput
  by_cases main : menu.currentState = .main
  · rw [if_pos main]
    exact ⟨fun same => absurd (main.symm.trans same) (by decide), fun _ => .inr main⟩
  rw [if_neg main]
  by_cases ended : menu.currentState = .gameOver
  · rw [if_pos ended]
    refine ⟨fun same => absurd (ended.symm.trans same) (by decide), fun after => ?_⟩
    split at after
    · cases after
    · exact .inl after
  · rw [if_neg ended, if_neg other]
    exact ⟨id, .inl⟩

/-- The keyboard part of a notification in `menu_handler`. -/
theorem MenuFollows.input {log : List Event} {globals : Globals} (follows : MenuFollows log globals)
    {keyboard : Option Ports}
    (other : ∀ ports, keyboard = some ports → kbcIh ports globals.scancode ≠ kbBreakEsc) :
    MenuFollows (log ++ if choosesScores keyboard globals then [.chosen] else [])
      (menuInput keyboard globals) := by
  cases keyboard with
  | none =>
    have idle : choosesScores none globals = false := by
      rw [choosesScores, decide_eq_false_iff_not]
      exact fun both => absurd (both.1.symm.trans both.2) (by decide)
    rw [idle, if_neg Bool.false_ne_true, List.append_nil]
    exact follows
  | some ports =>
    obtain ⟨stays, enters⟩ := @menuHandleInput_scores _ globals.menu (other ports rfl)
    by_cases chooses : choosesScores (some ports) globals = true
    · rw [if_pos chooses]
      rw [choosesScores, decide_eq_true_eq] at chooses
      have lost : ¬ log.getLast? = some .won := fun won =>
        absurd (chooses.1.symm.trans (follows.straight won)) (by decide)
      refine ⟨?_, ?_, follows.fresh, fun _ => .inl (by simp), fun _ => chooses.2⟩
      · rw [List.getLast?_concat]
        exact iff_of_false (fun win => lost (follows.win.mp win)) (by decide)
      · rw [lastOutcome_chosen]
        exact follows.lost
    · rw [if_neg chooses, List.append_nil]
      rw [choosesScores, decide_eq_true_eq, not_and] at chooses
      refine ⟨follows.win, follows.lost, follows.fresh, fun scores => ?_, fun won => ?_⟩
      · exact (enters scores).elim follows.entered fun main => absurd scores (chooses main)
      · exact stays (follows.straight won)

/-- The timer branch of `menu_handler`. -/
theorem MenuFollows.menuTimer {log : List Event} {globals : Globals}
    (follows : MenuFollows log globals) (mode : ModeInfo) :
    Tracks (log, menuTimer mode globals) := by
  simp only [SpaceInvaders.menuTimer]
  split
  · rename_i state
    unfold startGame
    split
    · exact follows_returned log 1 _
    · exact follows_gameStateLoop ⟨rfl, rfl, rfl, state⟩ follows.fresh
  · unfold showScores
    split
    · unfold scoreStateLoop
      split
      · rename_i escape
        exact follows_menuHandlerLoop fun other => absurd escape other
      · trivial
    · exact follows_returned log 1 _
  · exact follows_returned log 0 _
  · rename_i notScores _
    refine follows_menuHandlerLoop fun _ => ?_
    have rendered : (menuRender globals.menu).currentState ≠ .scores := by
      unfold menuRender
      split
      · exact fun same => by cases same
      · exact notScores
    exact ⟨follows.win, follows.lost, follows.fresh, fun scores => absurd scores rendered,
      fun won => absurd (follows.straight won) notScores⟩

/-- A running game does not look at the history. -/
theorem Tracks.relog {log log' : List Event} {program : Program} (follows : Tracks (log, program))
    (running : program.control = .gameState) : Tracks (log', program) := by
  obtain ⟨control, globals⟩ := program
  cases running
  exact follows

theorem gameInput_showScoresDrawn (mode : ModeInfo) (keyboard : Option Ports) (globals : Globals) :
    (gameInput mode keyboard globals).showScoresDrawn = globals.showScoresDrawn := by
  cases keyboard with
  | none => rfl
  | some ports =>
    simp only [gameInput, Option.elim, gameKeyboard]
    split
    · rfl
    · rfl

/-- The end of a tick. -/
theorem follows_finishTick {globals : Globals} (inGame : InGame globals)
    (fresh : globals.showScoresDrawn = false) (log : List Event) (mode : ModeInfo)
    (keyboard : Option Ports) (answers : Answers) :
    Tracks (log ++ (event mode ⟨.gameState, globals⟩ (.hardware keyboard (some answers))).toList,
      finishTick mode answers (tickGlobals mode keyboard answers globals)) := by
  obtain ⟨win, state, saved, _⟩ := inGame.ticked mode keyboard answers
  have fresh' : (tickGlobals mode keyboard answers globals).showScoresDrawn = false :=
    (gameInput_showScoresDrawn mode keyboard globals).trans fresh
  have loses_iff := inGame.loses_eq mode keyboard answers
  have wins_iff := inGame.wins_eq mode keyboard answers
  rw [finishTick_eq]
  cases outcome : tickOutcome mode (tickGlobals mode keyboard answers globals) with
  | undrawn => exact follows_returned _ 1 _
  | lost =>
    have same : event mode ⟨.gameState, globals⟩ (.hardware keyboard (some answers)) = some .lost :=
      if_pos (loses_iff.mpr outcome)
    have hit := (tickOutcome_lost_iff (by rw [outcome]; decide)).mp outcome
    rw [same]
    refine follows_menuHandlerLoop fun _ => ⟨?_, ?_, fresh', fun scores => ?_, fun won => ?_⟩
    · show (tickGlobals mode keyboard answers globals).playerWin = true ↔ _
      rw [win]
      exact iff_of_false Bool.false_ne_true (by simp)
    · exact iff_of_true hit (by simp)
    · exact absurd scores (by simp [menuSetState])
    · exact absurd won (by simp)
  | won =>
    have clear := tickOutcome_unhit (.inl outcome)
    have same : event mode ⟨.gameState, globals⟩ (.hardware keyboard (some answers)) = some .won := by
      refine (if_neg ?_).trans (if_pos (wins_iff.mpr outcome))
      rw [loses_iff, outcome]
      decide
    rw [same]
    refine follows_menuHandlerLoop fun _ => ⟨?_, ?_, fresh', fun _ => ?_, fun _ => rfl⟩
    · exact iff_of_true rfl (by simp)
    · show (tickGlobals mode keyboard answers globals).playerLost = true ↔ _
      rw [clear]
      exact iff_of_false Bool.false_ne_true (by simp)
    · exact .inr (by simp)
  | goesOn => exact follows_gameStateLoop ⟨win, tickOutcome_unhit (.inr outcome), saved, state⟩ fresh'

/-- A notification in `menu_handler`. -/
theorem tracks_menuMessage {mode : ModeInfo} {log : List Event} {globals : Globals}
    (follows : MenuFollows log globals) (keyboard : Option Ports) (timer : Option Answers) :
    Tracks (log ++ (event mode ⟨.menuHandler, globals⟩ (.hardware keyboard timer)).toList,
      step mode ⟨.menuHandler, globals⟩ (.hardware keyboard timer)) := by
  by_cases escape : scancodeAfter ⟨.menuHandler, globals⟩ (.hardware keyboard timer) = kbBreakEsc
  · -- the release of ESC ends the program
    have exits := @step_exits mode ⟨.menuHandler, globals⟩ (.hardware keyboard timer)
      fun _ returned => by cases returned
    obtain ⟨code, returned⟩ := exits.leaves escape
    unfold Tracks
    rw [returned]
    trivial
  have input := @MenuFollows.input _ _ follows keyboard fun ports same => by
    subst same
    exact escape
  have target : Tracks (log ++ (if choosesScores keyboard globals then [.chosen] else []),
      step mode ⟨.menuHandler, globals⟩ (.hardware keyboard timer)) := by
    cases timer with
    | none => exact follows_menuHandlerLoop fun _ => input
    | some answers => exact input.menuTimer mode
  by_cases chooses : choosesScores keyboard globals = true
  · have same : event mode ⟨.menuHandler, globals⟩ (.hardware keyboard timer) = some .chosen :=
      if_pos chooses
    rw [if_pos chooses] at target
    rw [same]
    exact target
  have same : event mode ⟨.menuHandler, globals⟩ (.hardware keyboard timer) =
      if (step mode ⟨.menuHandler, globals⟩ (.hardware keyboard timer)).control = .gameState then
        some .started
      else none := if_neg chooses
  rw [if_neg chooses, List.append_nil] at target
  rw [same]
  split
  · rename_i running
    exact target.relog running
  · rw [Option.toList_none, List.append_nil]
    exact target

/-- A message to `score_state` leaves it, or not. -/
theorem step_scoreState (mode : ModeInfo) (globals : Globals) (receive : Receive) :
    (∃ after, step mode ⟨.scoreState, globals⟩ receive = ⟨.scoreState, after⟩) ∨
      ∃ after, step mode ⟨.scoreState, globals⟩ receive = leaveScores after := by
  have loop (globals : Globals) : (∃ after, scoreStateLoop globals = ⟨.scoreState, after⟩) ∨
      ∃ after, scoreStateLoop globals = leaveScores after := by
    unfold scoreStateLoop
    split
    · exact .inr ⟨_, rfl⟩
    · exact .inl ⟨_, rfl⟩
  cases receive with
  | failed => exact loop globals
  | ignored => exact loop globals
  | hardware keyboard timer =>
    cases keyboard with
    | none => exact loop globals
    | some ports =>
      simp only [step, scoreMessage, Option.elim]
      split
      · exact .inr ⟨_, rfl⟩
      · exact loop _

/-- **One message** carries the invariant on. -/
theorem Tracks.step {mode : ModeInfo} {history : List Event × Program} (follows : Tracks history)
    (receive : Receive) : Tracks (Runs.recording (step mode) (event mode) history receive) := by
  obtain ⟨log, control, globals⟩ := history
  have silent {program : Program} (receive : Receive) (none : event mode ⟨control, globals⟩ receive = none)
      (follows : Tracks (log, program)) :
      Tracks (log ++ (event mode ⟨control, globals⟩ receive).toList, program) := by
    rw [none, Option.toList_none, List.append_nil]
    exact follows
  cases control with
  | returned code => exact follows_returned _ code globals
  | menuHandler =>
    cases receive with
    | failed => exact silent _ rfl (follows_menuHandlerLoop fun _ => follows)
    | ignored => exact silent _ rfl (follows_menuHandlerLoop fun _ => follows)
    | hardware keyboard timer => exact tracks_menuMessage follows keyboard timer
  | gameState =>
    obtain ⟨inGame, fresh⟩ := follows
    cases receive with
    | failed => exact silent _ rfl (follows_gameStateLoop inGame fresh)
    | ignored => exact silent _ rfl (follows_gameStateLoop inGame fresh)
    | hardware keyboard timer =>
      cases timer with
      | none =>
        exact silent _ rfl (follows_gameStateLoop (inGame.input mode keyboard)
          ((gameInput_showScoresDrawn mode keyboard globals).trans fresh))
      | some answers => exact follows_finishTick inGame fresh log mode keyboard answers
  | scoreState =>
    rcases step_scoreState mode globals receive with ⟨after, same⟩ | ⟨after, same⟩
    · show Tracks (_, SpaceInvaders.step mode ⟨.scoreState, globals⟩ receive)
      rw [same]
      trivial
    · have left : event mode ⟨.scoreState, globals⟩ receive = some .left := by
        refine if_neg ?_
        rw [same]
        unfold leaveScores
        rcases menuHandlerLoop_control (leftScores after) with waits | returned
        · exact fun stays => by cases waits.symm.trans stays
        · exact fun stays => by cases returned.symm.trans stays
      show Tracks (log ++ (event mode ⟨.scoreState, globals⟩ receive).toList,
        SpaceInvaders.step mode ⟨.scoreState, globals⟩ receive)
      rw [left, same]
      exact follows_menuHandlerLoop fun _ => ⟨iff_of_false Bool.false_ne_true (by simp),
        iff_of_false Bool.false_ne_true (by simp), rfl,
        fun scores => absurd scores (by simp [menuSetState]), fun won => absurd won (by simp)⟩

/-- The start of the program. -/
theorem tracks_start (csv : Option (List UInt8)) : Tracks ([], start csv) :=
  follows_menuHandlerLoop fun _ => ⟨iff_of_false Bool.false_ne_true (by simp),
    iff_of_false Bool.false_ne_true (by simp [lastOutcome]), rfl,
    fun scores => absurd scores (by simp [initGame, menuInit]), fun won => absurd won (by simp)⟩

/-! ### The screens -/

/-- Clearing the screen never fails. -/
theorem vgDrawRectangle_screen (mode : ModeInfo) :
    vgDrawRectangle mode 0 0 mode.XResolution.toNat mode.YResolution.toNat = 0 := by
  refine if_pos ((pixelsOnScreen_iff mode 0 0 _ _).mpr (.inr (.inr ?_)))
  rw [show u16 0 = 0 from rfl, Int.zero_add, Int.zero_add]
  exact ⟨le_rfl, le_rfl⟩

/-- The screen picked at the end of a history: the table unless a win comes last, or a loss before the
choice. -/
theorem MenuFollows.screen_iff {log : List Event} {globals : Globals}
    (follows : MenuFollows log globals) (scores : globals.menu.currentState = .scores) :
    ((log.getLast? = some .chosen → scoresScreen globals = .scoreboard) ∧
        (scoresScreen globals ≠ .scoreboard → log.getLast? = some .won)) ↔
      (log.getLast? = some .chosen → lastOutcome log ≠ some .lost) := by
  have table : scoresScreen globals = .scoreboard ↔
      ¬ log.getLast? = some .won ∧ ¬ lastOutcome log = some .lost := by
    rw [← follows.win, ← follows.lost]
    unfold scoresScreen
    split
    · rename_i neither
      exact iff_of_true rfl neither
    · rename_i either
      refine iff_of_false ?_ either
      split
      · exact fun same => by cases same
      · exact fun same => by cases same
  constructor
  · rintro ⟨shows, _⟩ chosen
    exact (table.mp (shows chosen)).2
  · intro clear
    have shows (chosen : log.getLast? = some .chosen) : scoresScreen globals = .scoreboard := by
      refine table.mpr ⟨fun won => ?_, clear chosen⟩
      rw [chosen] at won
      cases won
    refine ⟨shows, fun other => ?_⟩
    exact (follows.entered scores).resolve_left fun chosen => other (shows chosen)

/-- **Which screen a message shows.** -/
theorem showsRight_iff {mode : ModeInfo} {history : List Event × Program} (follows : Tracks history)
    (receive : Receive) : ShowsRight mode history receive ↔ NoLossPending mode history receive := by
  by_cases enters : entersScores history.2 receive = true
  swap
  · exact iff_of_true (fun runs => absurd runs enters) fun runs => absurd runs enters
  obtain ⟨log, control, globals⟩ := history
  cases receive with
  | failed => cases enters
  | ignored => cases enters
  | hardware keyboard timer =>
    cases timer with
    | none => cases enters
    | some answers =>
      have both := enters
      rw [entersScores, decide_eq_true_eq] at both
      obtain ⟨rfl, scores⟩ := both
      change MenuFollows log globals at follows
      have input := @MenuFollows.input _ _ follows keyboard fun ports same escape => by
        subst same
        have main : (menuInput (some ports) globals).menu.currentState = .main := by
          show (menuHandleInput (kbcIh ports globals.scancode) globals.menu).currentState = .main
          rw [escape]
          exact menuHandleInput_esc globals.menu
        exact absurd (main.symm.trans scores) (by decide)
      have idle : (step mode ⟨.menuHandler, globals⟩ (.hardware keyboard (some answers))).control ≠
          .gameState := by
        show (menuTimer mode (menuInput keyboard globals)).control ≠ .gameState
        simp only [menuTimer, scores]
        exact showScores_ne_gameState mode _
      have after : logAfter mode (log, ⟨.menuHandler, globals⟩) (.hardware keyboard (some answers)) =
          log ++ if choosesScores keyboard globals then [.chosen] else [] := by
        show log ++ (if _ then _ else if _ then _ else _ : Option Event).toList = _
        rw [if_neg idle]
        split
        · rfl
        · rfl
      have drawn : drawnScreen mode ⟨.menuHandler, globals⟩ (.hardware keyboard (some answers)) =
          some (scoresScreen (menuInput keyboard globals)) :=
        if_pos ⟨enters, follows.fresh, vgDrawRectangle_screen mode⟩
      have picked := input.screen_iff scores
      rw [← after] at picked
      simp only [ShowsRight, NoLossPending, drawn, enters, true_imp_iff, Option.some.injEq, ne_eq]
      exact picked

/-- **When Scores shows the table.** Over a whole run every choice of Scores shows the table, and a result is
shown straight from its game only, exactly when Scores is never shown after a choice with the loss of a
game as the last thing that happened. -/
theorem scores_screen_iff (mode : ModeInfo) (csv : Option (List UInt8)) (messages : List Receive) :
    Runs.Along (Runs.recording (step mode) (event mode)) (ShowsRight mode) ([], start csv) messages ↔
      Runs.Along (Runs.recording (step mode) (event mode)) (NoLossPending mode) ([], start csv)
        messages :=
  @Runs.along_congr _ _ _ Tracks _ _ (fun _ receive follows => follows.step receive)
    (fun _ receive follows => showsRight_iff follows receive) _ (tracks_start csv) _

theorem not_showsRight {mode : ModeInfo} {log : List Event} {program : Program} {receive : Receive}
    (drawn : drawnScreen mode program receive = some .gameOver)
    (enters : entersScores program receive = true)
    (chosen : (logAfter mode (log, program) receive).getLast? = some .chosen) :
    ¬ ShowsRight mode (log, program) receive := by
  intro right
  have table := (right enters).1 chosen
  rw [drawn] at table
  cases table

/-- The keys from a lost game to Scores, and the tick that draws it. -/
def scoresAfterLoss : List Receive :=
  loss ++ [press kbEnter, press kbDownArrow, press kbEnter]

/-- **Scores after a lost game** shows GAME OVER. -/
theorem not_showsRight_loss :
    drawnScreen mode14C (run mode14C (start none) scoresAfterLoss) (timerTick 0) = some .gameOver ∧
      ¬ Runs.Along (Runs.recording (step mode14C) (event mode14C)) (ShowsRight mode14C)
        ([], start none) (scoresAfterLoss ++ [timerTick 0]) := by
  have facts : drawnScreen mode14C (run mode14C (start none) scoresAfterLoss) (timerTick 0) =
        some .gameOver ∧
      entersScores (run mode14C (start none) scoresAfterLoss) (timerTick 0) = true ∧
      (logAfter mode14C (Runs.outputs (step mode14C) (event mode14C) (start none) scoresAfterLoss,
        run mode14C (start none) scoresAfterLoss) (timerTick 0)).getLast? = some .chosen := by
    decide +kernel
  obtain ⟨drawn, enters, chosen⟩ := facts
  refine ⟨drawn, fun right => ?_⟩
  have last := (Runs.along_append.mp right).2.1
  rw [Runs.run_recording, List.nil_append] at last
  exact not_showsRight drawn enters chosen last

end SpaceInvaders
