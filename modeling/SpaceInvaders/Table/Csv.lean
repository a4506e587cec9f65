/-
**Rows of the score file are read back.**

* `scanRow_row`: the row `fprintf` writes for a well-formed entry is scanned to that entry;
* `parsed_append_row`: appending a row to a file appends its entry to what loading parses;
* `entries_load`: loading sorts the first 100 parsed entries stably, whatever the array held before.
-/

import SpaceInvaders.Table.Rows

namespace SpaceInvaders

/-- The range of an `int`. -/
def IsInt32 (value : Int) : Prop := -2 ^ 31 ≤ value ∧ value < 2 ^ 31

instance (value : Int) : Decidable (IsInt32 value) := inferInstanceAs (Decidable (_ ∧ _))

/-- An entry of the written format: a name of 1 to 19 characters without comma or newline, which as a
C string has no zero byte, and three `int`s. -/
structure HighScoreEntry.WellFormed (entry : HighScoreEntry) : Prop where
  named : 1 ≤ entry.name.length
  short : entry.name.length ≤ 19
  plain : ∀ byte ∈ entry.name, byte ≠ 0 ∧ byte ≠ comma ∧ byte ≠ newline
  score : IsInt32 entry.score
  bulletsFired : IsInt32 entry.bulletsFired
  gameTimeSeconds : IsInt32 entry.gameTimeSeconds

/-- A result that can be saved. -/
abbrev Result : Type := { entry : HighScoreEntry // entry.WellFormed }

/-! ### One row -/

theorem toInt32_of_isInt32 {value : Int} (range : IsInt32 value) : toInt32 value = value := by
  obtain ⟨low, high⟩ := range
  unfold toInt32
  rw [min_eq_right (by omega), max_eq_right (by omega)]
  exact Int.bmod_eq_of_le (by omega) (by omega)

theorem isNumber_integer {value : Int} (range : IsInt32 value) :
    IsNumber (Decimal.integer value) value :=
  ⟨value, Decimal.denotes_integer value, (toInt32_of_isInt32 range).symm⟩

/-- The bytes of a printed integer are digits and a sign. -/
theorem integer_plain (value : Int) :
    ∀ byte ∈ Decimal.integer value, byte ≠ 0 ∧ byte ≠ comma ∧ byte ≠ newline := by
  have digit : ∀ byte, Decimal.isDigit byte = true → byte ≠ 0 ∧ byte ≠ comma ∧ byte ≠ newline := by
    intro byte isDigit
    refine ⟨?_, ?_, ?_⟩ <;> rintro rfl <;> exact absurd isDigit (by decide)
  intro byte member
  unfold Decimal.integer at member
  split at member
  · rcases List.mem_cons.mp member with rfl | later
    · decide
    · exact digit byte (Decimal.natural_isDigit _ byte later)
  · exact digit byte (Decimal.natural_isDigit _ byte member)

/-- What follows the name in a row. -/
def rowNumbers (entry : HighScoreEntry) : List UInt8 :=
  comma :: Decimal.integer entry.score ++ (comma :: Decimal.integer entry.bulletsFired ++
    (comma :: Decimal.integer entry.gameTimeSeconds))

theorem rowBody_eq (entry : HighScoreEntry) : rowBody entry = entry.name ++ rowNumbers entry := by
  simp [rowBody, rowNumbers]

theorem rowBody_plain {entry : HighScoreEntry} (wellFormed : entry.WellFormed) :
    ∀ byte ∈ rowBody entry, byte ≠ 0 ∧ byte ≠ newline := by
  intro byte member
  have separator : comma ≠ 0 ∧ comma ≠ newline := by decide
  have number (value : Int) (inside : byte ∈ Decimal.integer value) : byte ≠ 0 ∧ byte ≠ newline :=
    ⟨(integer_plain value byte inside).1, (integer_plain value byte inside).2.2⟩
  rw [rowBody_eq] at member
  simp only [rowNumbers, List.mem_append, List.mem_cons] at member
  rcases member with inName | (rfl | inside) | (rfl | inside) | rfl | inside
  · exact ⟨(wellFormed.plain byte inName).1, (wellFormed.plain byte inName).2.2⟩
  · exact separator
  · exact number _ inside
  · exact separator
  · exact number _ inside
  · exact separator
  · exact number _ inside

/-- A row fits the line buffer. -/
theorem rowBody_length_lt {entry : HighScoreEntry} (wellFormed : entry.WellFormed) :
    (rowBody entry).length < lineSize - 1 := by
  have number {value : Int} (range : IsInt32 value) : (Decimal.integer value).length ≤ 11 := by
    obtain ⟨low, high⟩ := range
    exact Decimal.integer_length_le (by omega) (by omega)
  have score := number wellFormed.score
  have bulletsFired := number wellFormed.bulletsFired
  have gameTimeSeconds := number wellFormed.gameTimeSeconds
  have short := wellFormed.short
  simp only [rowBody_eq, rowNumbers, List.length_append, List.length_cons, lineSize]
  omega

theorem row_plain {entry : HighScoreEntry} (wellFormed : entry.WellFormed) :
    ∀ byte ∈ row entry, byte ≠ 0 := by
  intro byte member
  rcases List.mem_append.mp member with inBody | last
  · exact (rowBody_plain wellFormed byte inBody).1
  · rw [List.mem_singleton.mp last]
    decide

/-- **A row is read back.** -/
theorem scanRow_row {entry : HighScoreEntry} (wellFormed : entry.WellFormed) :
    scanRow (row entry) = some entry := by
  -- the buffer holds no zero byte
  have text : scannedText (row entry) = row entry := scannedText_of_plain (row_plain wellFormed)
  have stopsNewline : Decimal.StopsDigits [newline] := by
    intro byte first
    cases first
    decide
  refine scanRow_iff.mpr ⟨Decimal.integer entry.score, Decimal.integer entry.bulletsFired,
    Decimal.integer entry.gameTimeSeconds, [newline], ?_,
    ⟨wellFormed.named, wellFormed.short, fun member => (wellFormed.plain comma member).2.1 rfl⟩,
    isNumber_integer wellFormed.score, isNumber_integer wellFormed.bulletsFired,
    isNumber_integer wellFormed.gameTimeSeconds, stopsNewline⟩
  rw [text, row, rowBody_eq]
  simp [rowNumbers]

/-! ### Loading -/

/-- The entries loading parses, one by one, before the cap. -/
def parsed : Option (List UInt8) → List HighScoreEntry
  | none => []
  | some file => (fgetsLines file).tail.filterMap scanRow

/-- The reading loop fills the table up to the cap. -/
theorem entries_loadLines (lines : List (List UInt8)) (table : ScoreTable) :
    (loadLines lines table).entries =
      table.entries ++ (lines.filterMap scanRow).take (maxHighscores - table.entries.length) := by
  induction lines generalizing table with
  | nil => simp [loadLines]
  | cons line lines ih =>
    unfold loadLines
    by_cases room : table.highscoreCount < maxHighscores
    · rw [dif_pos room]
      cases scanned : scanRow line with
      | none => rw [ih, List.filterMap_cons_none scanned]
      | some entry =>
        rw [ih, ScoreTable.entries_push, List.filterMap_cons_some scanned, List.length_append,
          ScoreTable.entries_length]
        obtain ⟨left, some_left⟩ : ∃ left, maxHighscores - table.highscoreCount = left + 1 :=
          ⟨maxHighscores - table.highscoreCount - 1, by omega⟩
        rw [some_left, List.take_succ_cons, List.append_assoc,
          show maxHighscores - (table.highscoreCount + [entry].length) = left by
            rw [List.length_singleton]; omega]
        rfl
    · have full : maxHighscores - table.entries.length = 0 := by
        rw [ScoreTable.entries_length]
        omega
      rw [dif_neg room, full, List.take_zero, List.append_nil]

/-- **Loading** sorts the first 100 parsed entries stably. -/
theorem entries_load (csv : Option (List UInt8)) (table : ScoreTable) :
    StableSort.IsStableSort HighScoreEntry.score ((parsed csv).take maxHighscores)
      (loadHighscoresFromCsv csv table).entries := by
  cases csv with
  | none => exact StableSort.IsStableSort.refl List.Pairwise.nil
  | some file =>
    simp only [loadHighscoresFromCsv, parsed]
    cases fgetsLines file with
    | nil => exact StableSort.IsStableSort.refl List.Pairwise.nil
    | cons header lines =>
      have sorts := (loadLines lines table.clear).entries_sort
      rwa [entries_loadLines, ScoreTable.entries_clear, List.nil_append, List.length_nil] at sorts

/-! ### Files of well-formed rows -/

/-- The file that ends at a line end, and has a line. -/
def HasHeader (file : List UInt8) : Prop := file ≠ [] ∧ Lines.Ends newline file

/-- A row that is a line of its own adds its entry. -/
theorem parsed_of_lines {file : List UInt8} (some_line : fgetsLines file ≠ []) (result : Result)
    (grown : fgetsLines (file ++ row result.val) = fgetsLines file ++ [row result.val]) :
    parsed (some (file ++ row result.val)) = parsed (some file) ++ [result.val] := by
  show (fgetsLines (file ++ row result.val)).tail.filterMap scanRow =
    (fgetsLines file).tail.filterMap scanRow ++ [result.val]
  rw [grown, List.tail_append_of_ne_nil some_line, List.filterMap_append]
  simp [scanRow_row result.property]

/-- Appending a row appends its entry to what is parsed. -/
theorem parsed_append_row {file : List UInt8} (header : HasHeader file) (result : Result) :
    parsed (some (file ++ row result.val)) = parsed (some file) ++ [result.val] ∧
      HasHeader (file ++ row result.val) := by
  obtain ⟨nonempty, ends⟩ := header
  have room : 0 < lineSize - 1 := by decide
  have inside : newline ∉ rowBody result.val := fun member =>
    (rowBody_plain result.property newline member).2 rfl
  have lines : fgetsLines (file ++ row result.val) = fgetsLines file ++ [row result.val] := by
    unfold fgetsLines
    rw [Lines.windows_append room ends, row,
      Lines.windows_of_fits inside (rowBody_length_lt result.property)]
  have some_line : fgetsLines file ≠ [] := by
    unfold fgetsLines
    rw [Lines.windows_of_ne_nil room nonempty]
    exact List.cons_ne_nil _ _
  exact ⟨parsed_of_lines some_line result lines, List.append_ne_nil_of_left_ne_nil nonempty _,
    ends.append (Lines.ends_snoc _)⟩

end SpaceInvaders
