/-
**The table in memory and the file never drift apart.**

After every save the entries of the table are the stable sort of the first 100 entries parsed from
the file (`InStep`): below the cap the table sorts in instalments what a load sorts at once
(`IsStableSort.append`), at the cap both leave the new row out.

* `save_inStep`: one save;
* `table_matches_file`: every sequence of saves after a load.
-/

import SpaceInvaders.Lib.Runs
import SpaceInvaders.Table.Csv

namespace SpaceInvaders

/-- The score file and the table. -/
abbrev Storage : Type := Option (List UInt8) × ScoreTable

/-- A save whose file operations succeed. -/
def save (storage : Storage) (result : Result) : Storage :=
  (saveHighscoreToCsv .success result.val storage.1 storage.2).2

/-- The table is what the file gives, and the file can be appended to. -/
structure InStep (storage : Storage) : Prop where
  sorts : StableSort.IsStableSort HighScoreEntry.score ((parsed storage.1).take maxHighscores)
    storage.2.entries
  headed : ∀ file, storage.1 = some file → HasHeader file

/-- The file begun by the first save. -/
theorem hasHeader_csvHeader : HasHeader csvHeader ∧ parsed (some csvHeader) = [] := by
  refine ⟨⟨by decide, Lines.ends_snoc _⟩, ?_⟩
  have lines : fgetsLines csvHeader = [csvHeader] :=
    Lines.windows_of_fits (by decide) (by decide)
  show (fgetsLines csvHeader).tail.filterMap scanRow = []
  rw [lines]
  rfl

/-- A load puts the table in step with the file. -/
theorem inStep_load {csv : Option (List UInt8)} (headed : ∀ file, csv = some file → HasHeader file)
    (table : ScoreTable) : InStep (csv, loadHighscoresFromCsv csv table) :=
  ⟨entries_load csv table, headed⟩

/-- The update of the table follows an appended entry. -/
theorem sorts_addHighscore {parsed : List HighScoreEntry} {table : ScoreTable} (entry : HighScoreEntry)
    (sorts : StableSort.IsStableSort HighScoreEntry.score (parsed.take maxHighscores) table.entries) :
    StableSort.IsStableSort HighScoreEntry.score ((parsed ++ [entry]).take maxHighscores)
      (addHighscore entry table).entries := by
  have size : table.highscoreCount = min maxHighscores parsed.length := by
    rw [← ScoreTable.entries_length, sorts.length_eq, List.length_take]
  unfold addHighscore
  by_cases room : table.highscoreCount < maxHighscores
  · have short : parsed.length < maxHighscores := by omega
    have sorted := (table.push entry room).entries_sort
    rw [ScoreTable.entries_push] at sorted
    rw [List.take_of_length_le (Nat.le_of_lt short)] at sorts
    rw [dif_pos room, List.take_of_length_le (by simpa using short)]
    exact sorts.append sorted
  · rw [dif_neg room, List.take_append_of_le_length (by omega)]
    exact sorts

/-- **One save** keeps table and file in step, and appends the result to the file. -/
theorem save_inStep {storage : Storage} (inStep : InStep storage) (result : Result) :
    InStep (save storage result) ∧
      parsed (save storage result).1 = parsed storage.1 ++ [result.val] := by
  obtain ⟨csv, table⟩ := storage
  obtain ⟨sorts, headed⟩ := inStep
  have after (content : List UInt8) (header : HasHeader content)
      (same : parsed (some content) = parsed csv) :
      InStep (some (content ++ row result.val), addHighscore result.val table) ∧
        parsed (some (content ++ row result.val)) = parsed csv ++ [result.val] := by
    obtain ⟨appended, header'⟩ := parsed_append_row header result
    rw [same] at appended
    refine ⟨⟨?_, fun file found => ?_⟩, appended⟩
    · rw [appended]
      exact sorts_addHighscore result.val sorts
    · cases found
      exact header'
  cases csv with
  | none => exact after csvHeader hasHeader_csvHeader.1 hasHeader_csvHeader.2
  | some file => exact after file (headed file rfl) rfl

/-- The file the program finds: absent, or a header line and rows. -/
def foundFile : Option (List UInt8 × List Result) → Option (List UInt8)
  | none => none
  | some (header, results) =>
    some ((header ++ [newline]) ++ (results.map fun result => row result.val).flatten)

theorem hasHeader_foundFile (found : Option (List UInt8 × List Result)) :
    ∀ file, foundFile found = some file → HasHeader file := by
  intro file same
  cases found with
  | none => cases same
  | some found =>
    obtain ⟨header, results⟩ := found
    cases same
    refine ⟨by simp, (Lines.ends_snoc header).append ?_⟩
    have rows : Lines.Ends newline _ :=
      Lines.ends_flatten (results.map fun result => rowBody result.val)
    rwa [List.map_map] at rows

/-- **The table never drifts from the file.** After a load of any such file and any saves, the entries
are those a fresh load of the resulting file gives. -/
theorem table_matches_file (found : Option (List UInt8 × List Result)) (table fresh : ScoreTable)
    (results : List Result) :
    (Runs.run save (foundFile found, loadHighscoresFromCsv (foundFile found) table)
        results).2.entries =
      (loadHighscoresFromCsv (Runs.run save
        (foundFile found, loadHighscoresFromCsv (foundFile found) table) results).1 fresh).entries := by
  have inStep : InStep (Runs.run save
      (foundFile found, loadHighscoresFromCsv (foundFile found) table) results) :=
    @Runs.run_invariant _ _ save InStep (fun _ result inStep => (save_inStep inStep result).1) _
      (inStep_load (hasHeader_foundFile found) table) results
  exact inStep.sorts.unique (entries_load _ fresh)

end SpaceInvaders
