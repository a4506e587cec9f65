/-
**When the table holds the best scores.**

A load stops at 100 rows and a save leaves a full table alone, both before anything is sorted. So the
table holds the first 100 results of the whole history, sorted: `Stored`. These are the best ones
exactly when no later result beats one of them (`holds_best_iff`); `not_holdsBest_overflow` is a
history of 101 results where one does.
-/

import SpaceInvaders.Table.Drift

namespace SpaceInvaders

/-- What happens to the scores: a won game saves its result, or the program is started again. -/
inductive ScoreEvent
  | save (result : Result)
  | restart

def scoreEvent (storage : Storage) : ScoreEvent → Storage
  | .save result => save storage result
  | .restart => (storage.1, loadHighscoresFromCsv storage.1 .empty)

/-- The first start of the program, without a file. -/
def firstStart : Storage := (none, loadHighscoresFromCsv none .empty)

/-- The results of a history, in their order. -/
def savedResults (events : List ScoreEvent) : List HighScoreEntry :=
  events.filterMap fun
    | .save result => some result.val
    | .restart => none

/-- The file holds the results, and the table is in step with it. -/
def Stored (results : List HighScoreEntry) (storage : Storage) : Prop :=
  InStep storage ∧ parsed storage.1 = results

theorem stored_scoreEvent {results : List HighScoreEntry} {storage : Storage}
    (stored : Stored results storage) (event : ScoreEvent) :
    Stored (results ++ savedResults [event]) (scoreEvent storage event) := by
  obtain ⟨inStep, rfl⟩ := stored
  cases event with
  | save result => exact save_inStep inStep result
  | restart =>
    refine ⟨inStep_load inStep.headed .empty, ?_⟩
    show parsed storage.1 = parsed storage.1 ++ []
    rw [List.append_nil]

/-- After every history the table is a stable sort of the first 100 results. -/
theorem stored_run (events : List ScoreEvent) :
    Stored (savedResults events) (Runs.run scoreEvent firstStart events) := by
  induction events using List.reverseRecOn with
  | nil => exact ⟨inStep_load (fun file found => by cases found) .empty, rfl⟩
  | append_singleton events event ih =>
    rw [Runs.run_snoc, savedResults, List.filterMap_append]
    exact stored_scoreEvent ih event

/-- Whether the table holds the best of one history. -/
theorem holdsBest_iff (events : List ScoreEvent) :
    StableSort.HoldsBest HighScoreEntry.score maxHighscores (savedResults events)
        (Runs.run scoreEvent firstStart events).2.entries ↔
      ∀ early ∈ (savedResults events).take maxHighscores,
        ∀ late ∈ (savedResults events).drop maxHighscores, late.score ≤ early.score := by
  obtain ⟨inStep, same⟩ := stored_run events
  have sorts := inStep.sorts
  rw [same] at sorts
  exact sorts.holdsBest_iff

/-- **When the table always holds the best scores.** It does throughout a history exactly when no
result behind the first 100 beats one of them. -/
theorem holds_best_iff (events : List ScoreEvent) :
    (∀ before, before <+: events →
      StableSort.HoldsBest HighScoreEntry.score maxHighscores (savedResults before)
        (Runs.run scoreEvent firstStart before).2.entries) ↔
      ∀ early ∈ (savedResults events).take maxHighscores,
        ∀ late ∈ (savedResults events).drop maxHighscores, late.score ≤ early.score := by
  constructor
  · intro always
    exact (holdsBest_iff events).mp (always events (List.prefix_refl events))
  · rintro ordered before ⟨after, rfl⟩
    refine (holdsBest_iff before).mpr fun early first late behind => ordered early ?_ late ?_
    all_goals rw [savedResults, List.filterMap_append]
    · rw [List.take_append]
      exact List.mem_append_left _ first
    · rw [List.drop_append]
      exact List.mem_append_left _ behind

/-! ### A history that overflows -/

/-- The result of the name `JIN` and a score. -/
def plainResult (score : Int) : HighScoreEntry := ⟨[74, 73, 78], score, 1, 1⟩

theorem plainResult_wellFormed {score : Int} (range : IsInt32 score) :
    (plainResult score).WellFormed where
  named := show 1 ≤ ([74, 73, 78] : List UInt8).length by decide
  short := show ([74, 73, 78] : List UInt8).length ≤ 19 by decide
  plain := by simp [plainResult, comma, newline]
  score := range
  bulletsFired := show IsInt32 1 by decide
  gameTimeSeconds := show IsInt32 1 by decide

/-- A hundred results of 100 points, then one of 9950. -/
def overflow : List ScoreEvent :=
  List.replicate 100 (.save ⟨plainResult 100, plainResult_wellFormed (by decide)⟩) ++
    [.save ⟨plainResult 9950, plainResult_wellFormed (by decide)⟩]

/-- **The best result of all is missing from the table.** -/
theorem not_holdsBest_overflow :
    ¬ StableSort.HoldsBest HighScoreEntry.score maxHighscores (savedResults overflow)
      (Runs.run scoreEvent firstStart overflow).2.entries := by
  have results : savedResults overflow =
      List.replicate 100 (plainResult 100) ++ [plainResult 9950] := by
    simp [savedResults, overflow]
  rw [holdsBest_iff, results]
  intro ordered
  have early : plainResult 100 ∈ (List.replicate 100 (plainResult 100) ++ [plainResult 9950]).take
      maxHighscores := by
    rw [List.take_append_of_le_length (by simp [maxHighscores])]
    simp [maxHighscores]
  have late : plainResult 9950 ∈ (List.replicate 100 (plainResult 100) ++ [plainResult 9950]).drop
      maxHighscores := by
    rw [List.drop_append_of_le_length (by simp [maxHighscores])]
    simp
  have beaten := ordered _ early _ late
  exact absurd beaten (by decide)

end SpaceInvaders
