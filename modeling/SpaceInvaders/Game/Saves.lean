/-
**The file and the table over whole runs of the program.**

Nothing in the program touches the score file or the table but the save of a won game, and a new start.
So the storage of any number of program runs, one after the other, follows the events of `Ledger`,
whatever the file operations do.

* `storage_run`: one run drives the storage with the saves of its wins;
* `storage_kept`: after any number of runs file and table are as the accounts of all their wins say.
-/

import SpaceInvaders.Game.Pace
import SpaceInvaders.Table.Ledger

namespace SpaceInvaders

/-- The file and the table of a program. -/
def Globals.storage (globals : Globals) : Storage := (globals.score.csv, globals.score.table)

/-- The save of a message that wins a game. -/
def winSave (mode : ModeInfo) (program : Program) : Receive → Option FileEvent
  | .hardware keyboard (some answers) =>
    (winRow mode program (.hardware keyboard (some answers))).map (FileEvent.save answers.file)
  | _ => none

/-- The saves of a run. -/
def winSaves (mode : ModeInfo) (csv : Option (List UInt8)) (messages : List Receive) :
    List FileEvent :=
  Runs.outputs (step mode) (winSave mode) (start csv) messages

/-! ### One message -/

/-- The file and the table of a score. -/
def Score.storage (score : Score) : Storage := (score.csv, score.table)

theorem storage_scoreAddBullet (score : Score) : (scoreAddBullet score).storage = score.storage := by
  unfold scoreAddBullet
  split <;> rfl

theorem storage_scoreUpdateTime (timerTicks : Nat) (score : Score) :
    (scoreUpdateTime timerTicks score).storage = score.storage := by
  unfold scoreUpdateTime
  split <;> rfl

theorem storage_scoreCalculateFinal (score : Score) :
    (scoreCalculateFinal score).storage = score.storage := by
  unfold scoreCalculateFinal
  split <;> rfl

/-- A key in a game leaves the storage alone. -/
theorem storage_gameInput (mode : ModeInfo) (keyboard : Option Ports) (globals : Globals) :
    (gameInput mode keyboard globals).storage = globals.storage := by
  cases keyboard with
  | none => rfl
  | some ports =>
    simp only [gameInput, Option.elim, gameKeyboard]
    split
    · rfl
    show Score.storage (if _ then _ else _) = globals.score.storage
    split
    · exact storage_scoreAddBullet globals.score
    · rfl

/-- So does a tick, up to its end. -/
theorem storage_tickGlobals (mode : ModeInfo) (keyboard : Option Ports) (answers : Answers)
    (globals : Globals) : (tickGlobals mode keyboard answers globals).storage = globals.storage :=
  (storage_scoreUpdateTime _ _).trans (storage_gameInput mode keyboard globals)

/-- The end of a game by ESC, or its going on. -/
theorem storage_gameStateLoop (globals : Globals) :
    (gameStateLoop globals).globals.storage = globals.storage := by
  unfold gameStateLoop
  split
  · rw [menuHandlerLoop_globals]
    rfl
  · rfl

/-- The save of a won game. -/
theorem storage_saveWinHighscore (roll : Nat) (outcome : FileOutcome) {score : Score}
    (unsaved : score.highscoreSavedThisGame = false) :
    (saveWinHighscore roll outcome score).storage =
      fileEvent score.storage (.save outcome (savedEntry roll score)) := by
  unfold saveWinHighscore
  rw [if_neg (by rw [unsaved]; exact Bool.false_ne_true)]
  rfl

/-- **One message** drives the storage with the save it makes, if it makes one. -/
theorem step_storage {mode : ModeInfo} {program : Program} (reached : Reachable mode program)
    (receive : Receive) :
    (step mode program receive).globals.storage =
      Runs.run fileEvent program.globals.storage (winSave mode program receive).toList := by
  by_cases running : program.control = .gameState
  · have inGame := inGame_of_reachable reached running
    obtain ⟨control, globals⟩ := program
    cases running
    cases receive with
    | failed => exact storage_gameStateLoop globals
    | ignored => exact storage_gameStateLoop globals
    | hardware keyboard timer =>
      cases timer with
      | none => exact (storage_gameStateLoop _).trans (storage_gameInput mode keyboard globals)
      | some answers =>
        have same := storage_tickGlobals mode keyboard answers globals
        obtain ⟨_, _, saved, _⟩ := inGame.ticked mode keyboard answers
        have none (lasts : tickOutcome mode (tickGlobals mode keyboard answers globals) ≠ .won) :
            winSave mode ⟨.gameState, globals⟩ (.hardware keyboard (some answers)) = Option.none := by
          have row : winRow mode ⟨.gameState, globals⟩ (.hardware keyboard (some answers)) =
              Option.none := if_neg fun both => lasts ((inGame.wins_eq mode keyboard answers).mp both.2)
          rw [winSave, row]
          rfl
        rw [step_tick rfl, finishTick_eq]
        cases outcome : tickOutcome mode (tickGlobals mode keyboard answers globals) with
        | undrawn =>
          rw [none (by rw [outcome]; decide)]
          exact same
        | lost =>
          rw [none (by rw [outcome]; decide)]
          unfold loseGame
          rw [menuHandlerLoop_globals]
          exact (storage_scoreCalculateFinal _).trans same
        | won =>
          have save : winSave mode ⟨.gameState, globals⟩ (.hardware keyboard (some answers)) =
              some (.save answers.file
                (winEntry answers (tickGlobals mode keyboard answers globals))) := by
            have row : winRow mode ⟨.gameState, globals⟩ (.hardware keyboard (some answers)) =
                some (winEntry answers (tickGlobals mode keyboard answers globals)) :=
              if_pos ⟨rfl, (inGame.wins_eq mode keyboard answers).mpr outcome⟩
            rw [winSave, row]
            rfl
          have final := scoreCalculateFinal_keeps (tickGlobals mode keyboard answers globals).score
          rw [save, winEntry_eq, ← same]
          unfold winGame
          rw [menuHandlerLoop_globals]
          refine (storage_saveWinHighscore answers.nameRoll answers.file
            (final.2.1.trans saved)).trans ?_
          rw [storage_scoreCalculateFinal]
          rfl
        | goesOn =>
          rw [none (by rw [outcome]; decide)]
          exact (storage_gameStateLoop _).trans same
  · have save : winSave mode program receive = none := by
      cases receive with
      | failed => rfl
      | ignored => rfl
      | hardware keyboard timer =>
        cases timer with
        | none => rfl
        | some answers =>
          rw [winSave, winRow_of_idle running]
          rfl
    rw [save]
    refine @Outside.step mode (fun globals => globals.storage = program.globals.storage) ?_ _ running
      rfl receive
    exact ⟨fun _ _ _ same => same, fun _ same => same, fun _ same => same, fun _ same => same,
      fun _ same => same, fun _ same => same⟩

/-- **One run** of the program drives the storage with the saves of its wins. -/
theorem storage_run (mode : ModeInfo) (csv : Option (List UInt8)) (messages : List Receive) :
    (run mode (start csv) messages).globals.storage =
      Runs.run fileEvent (csv, loadHighscoresFromCsv csv .empty) (winSaves mode csv messages) := by
  have driven := @Runs.run_driven _ _ (step mode) _ (winSave mode) _
    (fun program => program.globals.storage) fileEvent (Reachable mode)
    (fun _ receive reached => reached.step receive)
    (fun _ receive reached => step_storage reached receive) _ (reachable_start mode csv) messages
  rwa [start, menuHandlerLoop_globals] at driven

/-! ### The entries -/

/-- Every name of the array can be written into a row. -/
theorem animeName_wellFormed (roll : Nat) :
    1 ≤ (getRandomAnimeName roll).length ∧ (getRandomAnimeName roll).length ≤ 9 ∧
      ∀ byte ∈ getRandomAnimeName roll, byte ≠ 0 ∧ byte ≠ comma ∧ byte ≠ newline := by
  have all : ∀ index < animeNames.length,
      1 ≤ (bytes (animeNames.getD index "")).length ∧ (bytes (animeNames.getD index "")).length ≤ 9 ∧
        ∀ byte ∈ bytes (animeNames.getD index ""), byte ≠ 0 ∧ byte ≠ comma ∧ byte ≠ newline := by
    decide +kernel
  exact all _ (Nat.mod_lt _ (by decide))

/-- The message of a win. -/
theorem winRow_eq_some {mode : ModeInfo} {program : Program} {receive : Receive}
    {entry : HighScoreEntry} (won : winRow mode program receive = some entry) :
    program.control = .gameState ∧ wins mode program.globals receive = true ∧
      ∃ keyboard answers, receive = .hardware keyboard (some answers) ∧
        entry = winEntry answers (tickGlobals mode keyboard answers program.globals) := by
  cases receive with
  | failed => cases won
  | ignored => cases won
  | hardware keyboard timer =>
    cases timer with
    | none => cases won
    | some answers =>
      change (if _ then _ else _) = _ at won
      split at won
      · rename_i wins
        cases won
        exact ⟨wins.1, wins.2, keyboard, answers, rfl, rfl⟩
      · cases won

/-- The entry of a win is small, and can be written into a row. -/
structure WinSized (entry : HighScoreEntry) : Prop where
  wellFormed : entry.WellFormed
  named : entry.name.length ≤ 9
  score : 100 ≤ entry.score ∧ entry.score ≤ 10000
  shots : 0 ≤ entry.bulletsFired ∧ entry.bulletsFired ≤ 1117
  time : 0 ≤ entry.gameTimeSeconds ∧ entry.gameTimeSeconds ≤ 558

theorem winRow_winSized {program : Program} (reached : Reachable mode14C program) {receive : Receive}
    {entry : HighScoreEntry} (won : winRow mode14C program receive = some entry) :
    WinSized entry := by
  obtain ⟨running, _, keyboard, answers, _, ended⟩ := winRow_eq_some won
  have score : entry.score = max 100 (10000 - 50 * entry.bulletsFired - 10 * entry.gameTimeSeconds) := by
    obtain ⟨csv, messages, rfl⟩ := reached
    obtain ⟨prior, game, rfl, starts, plays⟩ := running_game running
    rw [run_append] at won
    exact (ownResult_winRow starts plays won).score
  have counters := ticked_counters reached running keyboard answers rfl
  obtain ⟨nonempty, short, plain⟩ := animeName_wellFormed answers.nameRoll
  have fired : entry.bulletsFired =
      (tickGlobals mode14C keyboard answers program.globals).score.currentScore.bulletsFired := by
    rw [ended]
    rfl
  have time : entry.gameTimeSeconds =
      (tickGlobals mode14C keyboard answers program.globals).score.currentScore.gameTimeSeconds := by
    rw [ended]
    rfl
  have name : entry.name = getRandomAnimeName answers.nameRoll := by
    rw [ended]
    rfl
  rw [← fired, ← time] at counters
  rw [← name] at nonempty short plain
  have bounds : 100 ≤ entry.score ∧ entry.score ≤ 10000 := by omega
  refine ⟨⟨nonempty, by omega, plain, ?_, ?_, ?_⟩, short, bounds, by omega, by omega⟩
  all_goals
    unfold IsInt32
    omega

/-- A save adds at most its entry to the table. -/
theorem mem_saveHighscoreToCsv {outcome : FileOutcome} {entry found : HighScoreEntry}
    {csv : Option (List UInt8)} {table : ScoreTable}
    (member : found ∈ (saveHighscoreToCsv outcome entry csv table).2.2.entries) :
    found ∈ table.entries ∨ found = entry := by
  have added (inside : found ∈ (addHighscore entry table).entries) :
      found ∈ table.entries ∨ found = entry := by
    unfold addHighscore at inside
    split at inside
    · rename_i room
      have pushed := ((table.push entry room).entries_sort.perm.mem_iff).mp inside
      rw [ScoreTable.entries_push] at pushed
      simpa using pushed
    · exact .inl inside
  unfold saveHighscoreToCsv at member
  split at member
  · exact .inl member
  · simp only at member
    split at member
    · exact .inl member
    · exact added member

/-- **The entries of the table** were loaded, or are results of games won since. -/
theorem mem_table {csv : Option (List UInt8)} {messages : List Receive} {entry : HighScoreEntry}
    (member : entry ∈ (run mode14C (start csv) messages).globals.score.table.entries) :
    entry ∈ (loadHighscoresFromCsv csv .empty).entries ∨ WinSized entry := by
  induction messages using List.reverseRecOn generalizing entry with
  | nil =>
    rw [run, Runs.run_nil, start, menuHandlerLoop_globals] at member
    exact .inl member
  | append_singleton messages receive ih =>
    have reached : Reachable mode14C (run mode14C (start csv) messages) := ⟨csv, messages, rfl⟩
    rw [run, Runs.run_snoc] at member
    have after := congrArg Prod.snd (step_storage reached receive)
    change (step mode14C (run mode14C (start csv) messages) receive).globals.score.table = _ at after
    rw [after] at member
    cases saves : winSave mode14C (run mode14C (start csv) messages) receive with
    | none =>
      rw [saves] at member
      exact ih member
    | some event =>
      rw [saves] at member
      cases receive with
      | failed => cases saves
      | ignored => cases saves
      | hardware keyboard timer =>
        cases timer with
        | none => cases saves
        | some answers =>
          obtain ⟨won, row, rfl⟩ := Option.map_eq_some_iff.mp saves
          rcases mem_saveHighscoreToCsv member with earlier | rfl
          · exact ih earlier
          · exact .inr (winRow_winSized reached row)

/-! ### Runs of the program, one after the other -/

/-- The file that a run leaves. -/
def fileAfter (mode : ModeInfo) (csv : Option (List UInt8)) (messages : List Receive) :
    Option (List UInt8) :=
  (run mode (start csv) messages).globals.score.csv

/-- The saves and the new starts of runs, each beginning with the file that the one before left. -/
def sessionEvents (mode : ModeInfo) : Option (List UInt8) → List (List Receive) → List FileEvent
  | _, [] => []
  | csv, messages :: rest =>
    winSaves mode csv messages ++ .restart :: sessionEvents mode (fileAfter mode csv messages) rest

theorem storage_sessions (mode : ModeInfo) (csv : Option (List UInt8)) (sessions : List (List Receive)) :
    Runs.run fileEvent (csv, loadHighscoresFromCsv csv .empty) (sessionEvents mode csv sessions) =
      (sessions.foldl (fileAfter mode) csv,
        loadHighscoresFromCsv (sessions.foldl (fileAfter mode) csv) .empty) := by
  induction sessions generalizing csv with
  | nil => rfl
  | cons messages rest ih =>
    rw [sessionEvents, Runs.run_append, ← storage_run, Runs.run_cons]
    exact ih (fileAfter mode csv messages)

/-- The rows of a message are printed whole or not at all. -/
def Receive.PrintsWhole : Receive → Prop
  | .hardware _ (some answers) => answers.file.printFails = none ∨ answers.file.printFails = some []
  | _ => True

theorem winSaves_proper {csv : Option (List UInt8)} {messages : List Receive}
    (whole : ∀ receive ∈ messages, receive.PrintsWhole) :
    ∀ event ∈ winSaves mode14C csv messages, event.Proper := by
  intro event member
  obtain ⟨before, receive, after, rfl, saves⟩ := Runs.exists_step_of_mem_outputs member
  have prints := whole receive (by simp)
  have reached : Reachable mode14C (run mode14C (start csv) before) := ⟨csv, before, rfl⟩
  cases receive with
  | failed => cases saves
  | ignored => cases saves
  | hardware keyboard timer =>
    cases timer with
    | none => cases saves
    | some answers =>
      obtain ⟨entry, won, rfl⟩ := Option.map_eq_some_iff.mp saves
      exact ⟨(winRow_winSized reached won).wellFormed, prints⟩

theorem sessionEvents_proper {csv : Option (List UInt8)} {sessions : List (List Receive)}
    (whole : ∀ messages ∈ sessions, ∀ receive ∈ messages, receive.PrintsWhole) :
    ∀ event ∈ sessionEvents mode14C csv sessions, event.Proper := by
  induction sessions generalizing csv with
  | nil => exact fun event member => (nomatch member)
  | cons messages rest ih =>
    intro event member
    rcases List.mem_append.mp member with here | later
    · exact winSaves_proper (whole messages (by simp)) event here
    · rcases List.mem_cons.mp later with rfl | later
      · trivial
      · exact ih (fun other member => whole other (List.mem_cons_of_mem _ member)) event later

/-- The saves and starts of runs that have ended, and of one that goes on. -/
def allEvents (mode : ModeInfo) (csv : Option (List UInt8)) (sessions : List (List Receive))
    (messages : List Receive) : List FileEvent :=
  sessionEvents mode csv sessions ++ winSaves mode (sessions.foldl (fileAfter mode) csv) messages

end SpaceInvaders
