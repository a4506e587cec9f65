/-
**Saving when the file operations fail.**

A save that cannot append begins the file anew; one that cannot do that either, or whose row is not
printed, leaves the table alone. The program goes on in all these cases, with a table and a file that need
no longer agree. `Ledger` keeps the two accounts: what the file has kept, and what the table was given.

* `Books.event`: one save or restart, whatever its file operations do;
* `books_history`: every history of saves and restarts keeps both accounts;
* `rows_of_appends`: without a save that begins the file anew, the file loses nothing.
-/

import SpaceInvaders.Table.Drift

namespace SpaceInvaders

/-- A save with the way its file operations go, or a new start of the program. -/
inductive FileEvent
  | save (outcome : FileOutcome) (entry : HighScoreEntry)
  | restart

/-- What it does to the file and to the table. -/
def fileEvent (storage : Storage) : FileEvent → Storage
  | .save outcome entry => (saveHighscoreToCsv outcome entry storage.1 storage.2).2
  | .restart => (storage.1, loadHighscoresFromCsv storage.1 .empty)

/-- A result of the written format, whose row is printed whole or not at all. -/
def FileEvent.Proper : FileEvent → Prop
  | .save outcome entry =>
    entry.WellFormed ∧ (outcome.printFails = none ∨ outcome.printFails = some [])
  | .restart => True

/-- The entries that the file holds, and those that the table was given since the program started. -/
structure Ledger where
  rows : List HighScoreEntry
  given : List HighScoreEntry

namespace Ledger

/-- Write mode begins the file anew. -/
def opened (ledger : Ledger) (outcome : FileOutcome) : List HighScoreEntry :=
  if outcome.appendOpens ∨ ¬ outcome.writeOpens then ledger.rows else []

/-- The entry of a save that returns 0. -/
def kept (outcome : FileOutcome) (entry : HighScoreEntry) : List HighScoreEntry :=
  if (outcome.appendOpens ∨ outcome.writeOpens) ∧ outcome.printFails = none then [entry] else []

/-- The accounts after an event. -/
def event (ledger : Ledger) : FileEvent → Ledger
  | .save outcome entry =>
    ⟨ledger.opened outcome ++ kept outcome entry, ledger.given ++ kept outcome entry⟩
  | .restart => ⟨ledger.rows, ledger.rows⟩

end Ledger

/-- The file and the table are as the accounts say. -/
structure Books (ledger : Ledger) (storage : Storage) : Prop where
  rows : parsed storage.1 = ledger.rows
  given : StableSort.IsStableSort HighScoreEntry.score (ledger.given.take maxHighscores)
    storage.2.entries
  headed : ∀ file, storage.1 = some file → HasHeader file

/-! ### One event -/

/-- The file that a save writes its row into. -/
theorem openForSave_spec {csv : Option (List UInt8)} (headed : ∀ file, csv = some file → HasHeader file)
    (outcome : FileOutcome) :
    openForSave outcome csv = none ∧ outcome.appendOpens = false ∧ outcome.writeOpens = false ∨
    ∃ content fileExists, openForSave outcome csv = some (content, fileExists) ∧
      (outcome.appendOpens = true ∨ outcome.writeOpens = true) ∧
      HasHeader (if fileExists then content else content ++ csvHeader) ∧
      parsed (some (if fileExists then content else content ++ csvHeader)) =
        if outcome.appendOpens then parsed csv else [] := by
  have begun : HasHeader ([] ++ csvHeader) ∧ parsed (some ([] ++ csvHeader)) = [] := hasHeader_csvHeader
  unfold openForSave
  cases append : outcome.appendOpens with
  | true =>
    right
    cases csv with
    | none => exact ⟨[], false, rfl, .inl rfl, begun⟩
    | some file => exact ⟨file, true, rfl, .inl rfl, headed file rfl, rfl⟩
  | false =>
    cases write : outcome.writeOpens with
    | true => exact .inr ⟨[], false, rfl, .inr rfl, begun⟩
    | false => exact .inl ⟨rfl, rfl, rfl⟩

/-- The accounts of a save that gives up, or opens the file. -/
theorem Ledger.opened_refused {outcome : FileOutcome} (append : outcome.appendOpens = false)
    (write : outcome.writeOpens = false) (ledger : Ledger) (entry : HighScoreEntry) :
    ledger.opened outcome = ledger.rows ∧ Ledger.kept outcome entry = [] := by
  simp [Ledger.opened, Ledger.kept, append, write]

theorem Ledger.opened_modes {outcome : FileOutcome}
    (opens : outcome.appendOpens = true ∨ outcome.writeOpens = true) (ledger : Ledger) :
    ledger.opened outcome = if outcome.appendOpens then ledger.rows else [] := by
  unfold Ledger.opened
  rcases opens with append | write
  · simp [append]
  · simp [write]

/-- **One event**, whatever its file operations do. -/
theorem Books.event {ledger : Ledger} {storage : Storage} (books : Books ledger storage)
    {event : FileEvent} (proper : event.Proper) :
    Books (ledger.event event) (fileEvent storage event) := by
  obtain ⟨rows, given, headed⟩ := books
  obtain ⟨csv, table⟩ := storage
  cases event with
  | restart =>
    refine ⟨rows, ?_, headed⟩
    show StableSort.IsStableSort HighScoreEntry.score (ledger.rows.take maxHighscores) _
    rw [← rows]
    exact entries_load csv .empty
  | save outcome entry =>
    obtain ⟨wellFormed, whole⟩ := proper
    change parsed csv = ledger.rows at rows
    show Books ⟨ledger.opened outcome ++ Ledger.kept outcome entry,
      ledger.given ++ Ledger.kept outcome entry⟩ (saveHighscoreToCsv outcome entry csv table).2
    unfold saveHighscoreToCsv
    rcases openForSave_spec headed outcome with ⟨refused, append, write⟩ |
      ⟨content, fileExists, opens, modes, header, begins⟩
    · obtain ⟨same, none⟩ := ledger.opened_refused append write entry
      rw [refused, same, none, List.append_nil, List.append_nil]
      exact ⟨rows, given, headed⟩
    · rw [opens, ledger.opened_modes modes, ← rows, ← begins]
      simp only
      rcases whole with printed | unprinted
      · have kept : Ledger.kept outcome entry = [entry] := if_pos ⟨modes, printed⟩
        obtain ⟨appended, header'⟩ := parsed_append_row header ⟨entry, wellFormed⟩
        rw [printed, kept]
        exact ⟨appended, sorts_addHighscore entry given, fun file found => by cases found; exact header'⟩
      · have kept : Ledger.kept outcome entry = [] := if_neg (by rw [unprinted]; simp)
        rw [unprinted, kept]
        simp only [List.append_nil]
        exact ⟨rfl, given, fun file found => by cases found; exact header⟩

/-! ### Histories -/

/-- **Every history of saves and restarts keeps both accounts**, whatever the file operations do: the file
holds the rows since it was last begun, and the table is a stable sort of the first 100 entries it was
given. -/
theorem books_history {csv : Option (List UInt8)} (headed : ∀ file, csv = some file → HasHeader file)
    {events : List FileEvent} (proper : ∀ event ∈ events, event.Proper) :
    Books (Runs.run Ledger.event ⟨parsed csv, parsed csv⟩ events)
      (Runs.run fileEvent (csv, loadHighscoresFromCsv csv .empty) events) := by
  induction events using List.reverseRecOn with
  | nil => exact ⟨rfl, entries_load csv .empty, headed⟩
  | append_singleton events event ih =>
    rw [Runs.run_snoc, Runs.run_snoc]
    have before := ih fun earlier member => proper earlier (List.mem_append_left _ member)
    exact before.event (proper event (by simp))

/-- The entries of the saves that return 0. -/
def keptEntries (events : List FileEvent) : List HighScoreEntry :=
  events.flatMap fun
    | .save outcome entry => Ledger.kept outcome entry
    | .restart => []

/-- A save that does not begin the file anew. -/
def FileEvent.Appends : FileEvent → Prop
  | .save outcome _ => outcome.appendOpens = true ∨ outcome.writeOpens = false
  | .restart => True

theorem rows_of_appends {ledger : Ledger} {events : List FileEvent}
    (appends : ∀ event ∈ events, event.Appends) :
    (Runs.run Ledger.event ledger events).rows = ledger.rows ++ keptEntries events := by
  induction events using List.reverseRecOn with
  | nil => exact (List.append_nil _).symm
  | append_singleton events event ih =>
    have before := ih fun earlier member => appends earlier (List.mem_append_left _ member)
    have last := appends event (by simp)
    rw [Runs.run_snoc, keptEntries, List.flatMap_append, ← List.append_assoc]
    change _ = ledger.rows ++ keptEntries events ++ _
    rw [← before]
    cases event with
    | restart => exact (List.append_nil _).symm
    | save outcome entry =>
      have opened : (Runs.run Ledger.event ledger events).opened outcome =
          (Runs.run Ledger.event ledger events).rows := if_pos (last.imp_right fun shut => by simp [shut])
      show Ledger.opened _ outcome ++ Ledger.kept outcome entry = _
      rw [opened]
      simp

end SpaceInvaders
