/-
**When a save loses nothing.**

A save writes its row behind whatever the file holds. A load drops the first line, and a line that does
not end goes on with the row. So the row is read back as a new entry, beside the old ones, only behind a line
end or behind a read that fills the line buffer; an empty file has no line end either. The one exception is a
last line that is no row by itself and becomes exactly the new one with the row behind it
(`CompletesRow`).

* `scanRow_drop_row`: a proper suffix of a row is never read as that row;
* `saves_all_iff`: the files on which a save and a load keep everything;
* `not_savesAll_empty`: the empty file.
-/

import SpaceInvaders.Table.Best

namespace SpaceInvaders

/-! ### What a scanned line holds -/

/-- A line that is scanned has a name, with three commas behind it. -/
theorem scanRow_eq_some {line : List UInt8} {entry : HighScoreEntry}
    (scanned : scanRow line = some entry) :
    entry.name = scannedName line ∧ entry.name ≠ [] ∧
      3 ≤ ((scannedText line).drop entry.name.length).count comma := by
  obtain ⟨first, second, third, rest, split, ⟨named, short, plain⟩, -⟩ := scanRow_iff.mp scanned
  refine ⟨(scannedName_of_split split plain short).symm, List.ne_nil_of_length_pos named, ?_⟩
  rw [split, List.drop_left]
  simp only [List.count_cons_self, List.count_append]
  omega

/-- What follows a scanned line does not change its name. -/
theorem scannedName_append {line : List UInt8} {entry : HighScoreEntry}
    (scanned : scanRow line = some entry) (more : List UInt8) :
    scannedName (line ++ more) = scannedName line := by
  obtain ⟨_, _, _, _, split, ⟨_, short, plain⟩, -⟩ := scanRow_iff.mp scanned
  have longer : ∃ behind, scannedText (line ++ more) = scannedText line ++ behind := by
    unfold scannedText
    rw [List.takeWhile_append]
    split
    · rename_i whole
      rw [(List.takeWhile_prefix _).eq_of_length whole]
      exact ⟨_, rfl⟩
    · exact ⟨[], (List.append_nil _).symm⟩
  obtain ⟨behind, text⟩ := longer
  rw [split, List.append_assoc, List.cons_append] at text
  rw [scannedName_of_split text plain short, scannedName_of_split split plain short]

/-! ### Pieces of a row -/

/-- A row has a comma behind its name, and two more. -/
theorem row_shape (entry : HighScoreEntry) :
    ∃ numbers, row entry = entry.name ++ comma :: numbers ∧ numbers.count comma = 2 := by
  have none (value : Int) : (Decimal.integer value).count comma = 0 :=
    List.count_eq_zero.mpr fun member => (integer_plain value comma member).2.1 rfl
  refine ⟨Decimal.integer entry.score ++ (comma :: Decimal.integer entry.bulletsFired ++
    (comma :: Decimal.integer entry.gameTimeSeconds ++ [newline])), ?_, ?_⟩
  · simp [row, rowBody]
  · have separate : [newline].count comma = 0 := by decide
    simp only [List.count_append, List.count_cons_self, List.cons_append, none, separate]

/-- **A proper suffix of a row** is read, if at all, with a shorter name. -/
theorem scanRow_drop_row {entry : HighScoreEntry} (wellFormed : entry.WellFormed) {cut : Nat}
    (proper : 0 < cut) {found : HighScoreEntry}
    (scanned : scanRow ((row entry).drop cut) = some found) :
    found.name.length < entry.name.length := by
  obtain ⟨same, named, commas⟩ := scanRow_eq_some scanned
  obtain ⟨numbers, shape, two⟩ := row_shape entry
  have text : scannedText ((row entry).drop cut) = (row entry).drop cut :=
    scannedText_of_plain fun byte member => row_plain wellFormed byte (List.mem_of_mem_drop member)
  rw [text, shape] at commas
  rw [scannedName, text, shape] at same
  rcases Nat.lt_or_ge cut entry.name.length with inside | beyond
  · -- the name is what is left of the row's name
    have plain : ∀ byte ∈ entry.name.drop cut, decide (byte ≠ comma) = true := fun byte member => by
      rw [decide_eq_true_eq]
      exact (wellFormed.plain byte (List.mem_of_mem_drop member)).2.1
    rw [List.drop_append_of_le_length (Nat.le_of_lt inside), List.takeWhile_append_of_pos plain,
      List.takeWhile_cons_of_neg (by simp), List.append_nil] at same
    rw [same, List.length_take, List.length_drop]
    omega
  · rw [List.drop_append, List.drop_of_length_le beyond, List.nil_append] at commas same
    rcases Nat.eq_or_lt_of_le beyond with atComma | behind
    · -- a comma comes first, and no name
      rw [← atComma, Nat.sub_self, List.drop_zero, List.takeWhile_cons_of_neg (by simp),
        List.take_nil] at same
      exact absurd same named
    · -- two commas are left
      obtain ⟨rest, more⟩ : ∃ rest, cut - entry.name.length = rest + 1 :=
        ⟨cut - entry.name.length - 1, by omega⟩
      rw [more, List.drop_succ_cons, List.drop_drop] at commas
      have few := (List.drop_suffix (rest + found.name.length) numbers).count_le comma
      omega

/-! ### What a load finds behind a save -/

/-- The last read of a file. -/
def lastLine (file : List UInt8) : List UInt8 := (fgetsLines file).getLastD []

/-- The two reads of an unfinished last line with a row behind it; the second is empty when the first
has room for both. -/
def firstPiece (file : List UInt8) (entry : HighScoreEntry) : List UInt8 :=
  (lastLine file ++ row entry).take (lineSize - 1)

def secondPiece (file : List UInt8) (entry : HighScoreEntry) : List UInt8 :=
  (lastLine file ++ row entry).drop (lineSize - 1)

/-- The unfinished line and the row are one line, read in its two pieces. -/
theorem windows_pieces {file : List UInt8} (inside : newline ∉ lastLine file)
    (short : (lastLine file).length < lineSize - 1) (result : Result) :
    ∃ rest, Lines.windows newline (lineSize - 1) (lastLine file ++ row result.val) =
        firstPiece file result.val :: rest ∧
      rest.filterMap scanRow = (scanRow (secondPiece file result.val)).toList := by
  have together : newline ∉ lastLine file ++ rowBody result.val := fun member =>
    (List.mem_append.mp member).elim inside fun within =>
      (rowBody_plain result.property newline within).2 rfl
  have size := rowBody_length_lt result.property
  obtain ⟨rest, pieces, second⟩ := Lines.windows_long (by decide : 0 < lineSize - 1) together
    (by rw [List.length_append]; omega)
  have whole : lastLine file ++ rowBody result.val ++ [newline] = lastLine file ++ row result.val := by
    rw [row, List.append_assoc]
  rw [whole] at pieces second
  change (rest = [] ∧ secondPiece file result.val = []) ∨ rest = [secondPiece file result.val]
    at second
  refine ⟨rest, pieces, ?_⟩
  rcases second with ⟨rfl, empty⟩ | rfl
  · rw [empty]
    rfl
  · cases read : scanRow (secondPiece file result.val) <;> simp [read]

/-- What is parsed from a file that does not end at a line end, before and after a save. -/
theorem parsed_unfinished {file : List UInt8} (unfinished : ¬ Lines.Ends newline file)
    (result : Result) :
    ((lastLine file).length = lineSize - 1 ∧
      parsed (some (file ++ row result.val)) = parsed (some file) ++ [result.val]) ∨
    ((lastLine file).length < lineSize - 1 ∧
      (((fgetsLines file).length = 1 ∧ parsed (some file) = [] ∧
        parsed (some (file ++ row result.val)) = (scanRow (secondPiece file result.val)).toList) ∨
      (1 < (fgetsLines file).length ∧ ∃ front,
        parsed (some file) = front ++ (scanRow (lastLine file)).toList ∧
        parsed (some (file ++ row result.val)) =
          front ++ ((scanRow (firstPiece file result.val)).toList ++
            (scanRow (secondPiece file result.val)).toList)))) := by
  have room : 0 < lineSize - 1 := by decide
  obtain ⟨front, last, reads, some_last, inside, fits, appended⟩ :=
    Lines.windows_unfinished room unfinished
  have lines : fgetsLines file = front ++ [last] := reads
  have same : lastLine file = last := by
    rw [lastLine, lines, List.getLastD_concat]
  have after : fgetsLines (file ++ row result.val) =
      front ++ Lines.windows newline (lineSize - 1) (last ++ row result.val) :=
    appended (row result.val)
  rcases Nat.eq_or_lt_of_le fits with full | short
  · refine .inl ⟨by rw [same, full], ?_⟩
    have plain : newline ∉ rowBody result.val := fun member =>
      (rowBody_plain result.property newline member).2 rfl
    have alone : Lines.windows newline (lineSize - 1) (row result.val) = [row result.val] :=
      Lines.windows_of_fits plain (rowBody_length_lt result.property)
    rw [Lines.windows_full room inside full, alone] at after
    refine parsed_of_lines (by rw [lines]; simp) result ?_
    rw [after, lines, List.append_assoc]
    rfl
  · refine .inr ⟨by rwa [same], ?_⟩
    rw [← same] at inside short
    obtain ⟨rest, pieces, scanned⟩ := windows_pieces inside short result
    rw [← same, pieces] at after
    cases front with
    | nil =>
      refine .inl ⟨by rw [lines]; rfl, ?_, ?_⟩
      · show (fgetsLines file).tail.filterMap scanRow = []
        rw [lines]
        rfl
      · show (fgetsLines _).tail.filterMap scanRow = _
        rw [after]
        exact scanned
    | cons header front =>
      refine .inr ⟨by rw [lines]; simp, front.filterMap scanRow, ?_, ?_⟩
      · show (fgetsLines file).tail.filterMap scanRow = _
        rw [lines, same]
        cases read : scanRow last <;> simp [read]
      · show (fgetsLines _).tail.filterMap scanRow = _
        rw [after, List.cons_append, List.tail_cons, List.filterMap_append]
        congr 1
        rw [← scanned]
        cases read : scanRow (firstPiece file result.val) <;> simp [read]

/-- A line that held an entry loses it, or the new one: both pieces would have to be read, the second one
as the old entry, whose name the first one has. -/
theorem not_perm_pieces {front : List HighScoreEntry} {held new : HighScoreEntry}
    {first second : Option HighScoreEntry} (room : front.length + 1 < maxHighscores)
    (shorter : ∀ found, second = some found → found.name.length < new.name.length)
    (named : ∀ found, first = some found → found.name = held.name) :
    ¬ ((front ++ (first.toList ++ second.toList)).take maxHighscores).Perm
        (front ++ [held] ++ [new]) := by
  intro same
  have two : (first.toList ++ second.toList).length ≤ 2 := by
    rw [List.length_append]
    exact Nat.add_le_add (Option.length_toList_le) (Option.length_toList_le)
  rw [List.take_of_length_le (by rw [List.length_append]; omega), List.append_assoc,
    List.perm_append_left_iff] at same
  cases first with
  | none =>
    have size := same.length_eq
    have one : second.toList.length ≤ 1 := Option.length_toList_le
    rw [Option.toList_none, List.nil_append] at size
    exact absurd (size ▸ one) (by simp)
  | some a =>
    cases second with
    | none => exact absurd same.length_eq (by simp)
    | some b =>
      have smaller := shorter b rfl
      have name := named a rfl
      have other : new ≠ b := fun same => by
        rw [same] at smaller
        exact absurd smaller (Nat.lt_irrefl _)
      have new_mem : new ∈ [a, b] := same.mem_iff.mpr (by simp)
      have b_mem : b ∈ [held, new] := same.mem_iff.mp (by simp)
      have is_new : new = a := (List.mem_pair.mp new_mem).resolve_right other
      have is_held : b = held := (List.mem_pair.mp b_mem).resolve_right fun same => other same.symm
      rw [is_held, ← name, ← is_new] at smaller
      exact absurd smaller (Nat.lt_irrefl _)

/-- The pieces of an unfinished line keep what it held, and add the new entry, only when it held nothing
and the first piece is the new entry. -/
theorem pieces_keep_iff {front : List HighScoreEntry} {last first second : Option HighScoreEntry}
    {new : HighScoreEntry} (room : (front ++ last.toList).length < maxHighscores)
    (shorter : ∀ found, second = some found → found.name.length < new.name.length)
    (named : ∀ held found, last = some held → first = some found → found.name = held.name) :
    ((front ++ (first.toList ++ second.toList)).take maxHighscores).Perm
        (front ++ last.toList ++ [new]) ↔
      last = none ∧ first = some new ∧
        (second = none ∨ (front ++ last.toList).length + 1 = maxHighscores) := by
  cases last with
  | some held =>
    refine iff_of_false (not_perm_pieces ?_ shorter fun found => named held found rfl)
      fun all => by cases all.1
    rwa [List.length_append] at room
  | none =>
    rw [Option.toList_none, List.append_nil] at room ⊢
    have place : 0 < maxHighscores - front.length := Nat.sub_pos_of_lt room
    rw [List.take_append, List.take_of_length_le (Nat.le_of_lt room), List.perm_append_left_iff,
      List.perm_singleton]
    cases first with
    | none =>
      refine iff_of_false (fun same => ?_) fun all => by cases all.2.1
      rw [Option.toList_none, List.nil_append] at same
      cases second with
      | none =>
        rw [Option.toList_none, List.take_nil] at same
        cases same
      | some found =>
        rw [Option.toList_some, List.take_of_length_le (by exact place)] at same
        have smaller := shorter found rfl
        rw [List.singleton_inj.mp same] at smaller
        exact absurd smaller (Nat.lt_irrefl _)
    | some a =>
      obtain ⟨left, more⟩ : ∃ left, maxHighscores - front.length = left + 1 :=
        ⟨maxHighscores - front.length - 1, by omega⟩
      rw [more, Option.toList_some, List.singleton_append, List.take_succ_cons, List.cons.injEq,
        Option.some.injEq, List.take_eq_nil_iff, Option.toList_eq_nil_iff]
      refine ⟨fun same => ⟨rfl, same.1, ?_⟩, fun all => ⟨all.2.1, ?_⟩⟩
      · exact same.2.symm.imp_right fun none_left => by omega
      · exact all.2.2.symm.imp_left fun full => by omega

/-! ### The files that can be appended to -/

/-- The last line is no row by itself, and becomes the new one with the row behind it; what is left of
the row, if anything, is not read as another one. -/
def CompletesRow (file : List UInt8) (entry : HighScoreEntry) : Prop :=
  1 < (fgetsLines file).length ∧ scanRow (lastLine file) = none ∧
    scanRow (firstPiece file entry) = some entry ∧
    (scanRow (secondPiece file entry) = none ∨ (parsed (some file)).length + 1 = maxHighscores)

/-- The file is absent; or it is not empty and ends at a line end, or with a read that fills the line buffer;
or its last line completes the row. -/
def Appendable (csv : Option (List UInt8)) (entry : HighScoreEntry) : Prop :=
  match csv with
  | none => True
  | some file =>
    file ≠ [] ∧ (Lines.Ends newline file ∨ (lastLine file).length = lineSize - 1 ∨
      CompletesRow file entry)

/-- Load a file, save a result, and load again: the table holds the entries of the first load and the new
one, sorted. -/
def SavesAll (csv : Option (List UInt8)) (table : ScoreTable) (result : Result) : Prop :=
  let loaded := loadHighscoresFromCsv csv table
  let saved := save (csv, loaded) result
  let again := loadHighscoresFromCsv saved.1 saved.2
  again.entries.Perm (loaded.entries ++ [result.val]) ∧
    again.entries.Pairwise fun earlier later => later.score ≤ earlier.score

/-- The file after a save. -/
theorem save_csv (csv : Option (List UInt8)) (table : ScoreTable) (result : Result) :
    (save (csv, table) result).1 = some (csv.getD csvHeader ++ row result.val) := by
  cases csv with
  | none => rfl
  | some file => rfl

/-- In terms of what is parsed. -/
theorem savesAll_iff {csv : Option (List UInt8)} {table : ScoreTable}
    (few : (loadHighscoresFromCsv csv table).highscoreCount < maxHighscores) (result : Result) :
    (parsed csv).length < maxHighscores ∧
      (SavesAll csv table result ↔
        ((parsed (some (csv.getD csvHeader ++ row result.val))).take maxHighscores).Perm
          (parsed csv ++ [result.val])) := by
  have before := entries_load csv table
  have after := entries_load (save (csv, loadHighscoresFromCsv csv table) result).1
    (save (csv, loadHighscoresFromCsv csv table) result).2
  have size : (parsed csv).length < maxHighscores := by
    rw [← ScoreTable.entries_length, before.length_eq, List.length_take] at few
    omega
  rw [List.take_of_length_le (Nat.le_of_lt size)] at before
  rw [save_csv] at after
  refine ⟨size, fun saves => ?_, fun same => ?_⟩
  · have kept := saves.1
    rw [save_csv] at kept
    exact (after.perm.symm.trans kept).trans (before.perm.append_right _)
  · unfold SavesAll
    simp only
    rw [save_csv]
    exact ⟨(after.perm.trans same).trans (before.perm.symm.append_right _), after.sorted⟩

/-- The condition on a file that does not end at a line end. -/
theorem savesAll_unfinished_iff {file : List UInt8} (unfinished : ¬ Lines.Ends newline file)
    (result : Result) (size : (parsed (some file)).length < maxHighscores) :
    ((parsed (some (file ++ row result.val))).take maxHighscores).Perm
        (parsed (some file) ++ [result.val]) ↔
      (lastLine file).length = lineSize - 1 ∨ CompletesRow file result.val := by
  have second (short : (lastLine file).length < lineSize - 1) (found : HighScoreEntry)
      (read : scanRow (secondPiece file result.val) = some found) :
      found.name.length < result.val.name.length := by
    rw [secondPiece, List.drop_append, List.drop_of_length_le (Nat.le_of_lt short),
      List.nil_append] at read
    exact scanRow_drop_row result.property (Nat.sub_pos_of_lt short) read
  rcases parsed_unfinished unfinished result with ⟨full, grown⟩ | ⟨short, header | rows⟩
  · refine iff_of_true ?_ (.inl full)
    rw [grown, List.take_of_length_le (by rw [List.length_append]; exact size)]
  · obtain ⟨one, nothing, after⟩ := header
    refine iff_of_false (fun same => ?_) fun either => ?_
    · rw [nothing, after, List.nil_append, List.perm_singleton] at same
      cases read : scanRow (secondPiece file result.val) with
      | none =>
        rw [read] at same
        cases same
      | some found =>
        have smaller := second short found read
        rw [read, Option.toList_some,
          List.take_of_length_le (by rw [List.length_singleton]; decide)] at same
        rw [List.singleton_inj.mp same] at smaller
        exact absurd smaller (Nat.lt_irrefl _)
    · rcases either with full | completes
      · exact absurd full (Nat.ne_of_lt short)
      · exact absurd completes.1 (by rw [one]; decide)
  · obtain ⟨more, front, before, after⟩ := rows
    have keeps := @pieces_keep_iff front (scanRow (lastLine file))
      (scanRow (firstPiece file result.val)) (scanRow (secondPiece file result.val)) result.val
      (before ▸ size) (second short) fun held found heldRead foundRead => ?_
    · rw [← after, ← before] at keeps
      refine keeps.trans ⟨fun all => .inr ⟨more, all⟩, fun either => ?_⟩
      exact (either.resolve_left (Nat.ne_of_lt short)).2
    · -- the first piece begins with the unfinished line
      have begins : firstPiece file result.val =
          lastLine file ++ (row result.val).take (lineSize - 1 - (lastLine file).length) := by
        rw [firstPiece, List.take_append, List.take_of_length_le (Nat.le_of_lt short)]
      rw [(scanRow_eq_some foundRead).1, begins, scannedName_append heldRead,
        (scanRow_eq_some heldRead).1]

/-- **When a save loses nothing.** Of the files a load finds fewer than 100 entries in, those and only those
that can be appended to give back, after a save and a load, their entries and the new one. -/
theorem saves_all_iff {csv : Option (List UInt8)} {table : ScoreTable}
    (few : (loadHighscoresFromCsv csv table).highscoreCount < maxHighscores) (result : Result) :
    SavesAll csv table result ↔ Appendable csv result.val := by
  obtain ⟨size, saves⟩ := savesAll_iff few result
  rw [saves]
  cases csv with
  | none =>
    refine iff_of_true ?_ trivial
    have grown := (parsed_append_row hasHeader_csvHeader.1 result).1
    rw [hasHeader_csvHeader.2] at grown
    show ((parsed (some (csvHeader ++ row result.val))).take maxHighscores).Perm _
    rw [grown]
    exact List.Perm.refl _
  | some file =>
    show ((parsed (some (file ++ row result.val))).take maxHighscores).Perm _ ↔ _
    by_cases empty : file = []
    · refine iff_of_false (fun same => ?_) fun appendable => appendable.1 empty
      have nothing : parsed (some (row result.val)) = [] := by
        show (fgetsLines (row result.val)).tail.filterMap scanRow = []
        have inside : newline ∉ rowBody result.val := fun member =>
          (rowBody_plain result.property newline member).2 rfl
        rw [fgetsLines, row, Lines.windows_of_fits inside (rowBody_length_lt result.property)]
        rfl
      rw [empty, List.nil_append, nothing] at same
      exact absurd same.length_eq (by simp)
    by_cases ends : Lines.Ends newline file
    · refine iff_of_true ?_ ⟨empty, .inl ends⟩
      rw [(parsed_append_row ⟨empty, ends⟩ result).1,
        List.take_of_length_le (by rw [List.length_append]; exact size)]
    · rw [savesAll_unfinished_iff ends result size]
      exact ⟨fun either => ⟨empty, .inr either⟩, fun appendable => appendable.2.resolve_left ends⟩

/-- The first save of all. -/
theorem saves_all_absent :
    (loadHighscoresFromCsv none .empty).highscoreCount < maxHighscores ∧
      SavesAll none .empty ⟨plainResult 100, plainResult_wellFormed (by decide)⟩ :=
  ⟨by decide, (saves_all_iff (by decide) _).mpr trivial⟩

/-- **A save into an empty file is lost**: its row becomes the header line of the next load. -/
theorem not_savesAll_empty :
    (loadHighscoresFromCsv (some []) .empty).highscoreCount = 0 ∧
      ¬ SavesAll (some []) .empty ⟨plainResult 100, plainResult_wellFormed (by decide)⟩ := by
  refine ⟨by decide, fun saves => ?_⟩
  have size := saves.1.length_eq
  exact absurd size (by decide)

end SpaceInvaders
