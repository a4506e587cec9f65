/-
**When a load takes the lines of the file.**

A load should store the rows among the lines after the first, in their order. It reads through a buffer of
255 bytes: the first read drops that much of the first line, and the rest of a long line is scanned like a
line of its own. To tell where an entry comes from, the reads and the lines carry their positions in the
file.

* `entries_stored`: what the loop stores are the rows among its reads;
* `rows_agree_iff`: when these are the rows among the lines;
* `load_lines_iff`: the files of which a load takes exactly the lines;
* `readsInStep_of_short`: they include the files whose lines fit the buffer;
* `not_loadsLines_middle`: an entry from the middle of a line.
-/

import SpaceInvaders.Lib.Pieces
import SpaceInvaders.Table.Csv

namespace SpaceInvaders

/-! ### What is stored -/

/-- A piece of the file that is scanned to an entry, with its position. -/
def rowAt (piece : Nat × List UInt8) : Option (Nat × HighScoreEntry) :=
  (scanRow piece.2).map fun entry => (piece.1, entry)

/-- What the reading loop stores, in its order: each entry with the position in the file at which its read
begins. -/
def storedRows (file : List UInt8) : List (Nat × HighScoreEntry) :=
  ((Lines.located 0 (fgetsLines file)).tail.filterMap rowAt).take maxHighscores

theorem map_snd_rowAt (pieces : List (Nat × List UInt8)) :
    (pieces.filterMap rowAt).map Prod.snd = (pieces.map Prod.snd).filterMap scanRow := by
  rw [List.map_filterMap, List.filterMap_map]
  congr 1
  funext piece
  show ((scanRow piece.2).map _).map _ = scanRow piece.2
  rw [Option.map_map]
  exact Option.map_id'

/-- The positions are those of the entries that the loop stores. -/
theorem entries_stored (file : List UInt8) (table : ScoreTable) :
    (loadLines (fgetsLines file).tail table.clear).entries = (storedRows file).map Prod.snd := by
  rw [entries_loadLines, ScoreTable.entries_clear, List.nil_append, List.length_nil, Nat.sub_zero,
    storedRows, List.map_take, map_snd_rowAt, List.map_tail, Lines.map_snd_located]

/-! ### What should be stored -/

/-- The lines after the first, with their positions. -/
def tableLines (file : List UInt8) : List (Nat × List UInt8) :=
  (Lines.located 0 (Lines.physical newline file)).tail

/-- The well-formed lines, in their order: each entry with the position at which its line begins. -/
inductive RowsOf : List (Nat × List UInt8) → List (Nat × HighScoreEntry) → Prop
  | nil : RowsOf [] []
  | row {start : Nat} {line : List UInt8} {entry : HighScoreEntry} {lines rows} :
    IsRowLine line entry → RowsOf lines rows → RowsOf ((start, line) :: lines) ((start, entry) :: rows)
  | other {start : Nat} {line : List UInt8} {lines rows} :
    (∀ entry, ¬ IsRowLine line entry) → RowsOf lines rows → RowsOf ((start, line) :: lines) rows

theorem rowsOf_iff {lines : List (Nat × List UInt8)} {rows : List (Nat × HighScoreEntry)} :
    RowsOf lines rows ↔ rows = lines.filterMap rowAt := by
  constructor
  · intro rowsOf
    induction rowsOf with
    | nil => rfl
    | row isRow _ ih =>
      have found := scanRow_iff.mpr isRow
      rw [ih, List.filterMap_cons_some (by rw [rowAt, found]; rfl)]
    | @other start line lines rows none_row _ ih =>
      have found : scanRow line = none :=
        Option.eq_none_iff_forall_ne_some.mpr fun entry scanned => none_row entry (scanRow_iff.mp scanned)
      rw [ih, List.filterMap_cons_none (by rw [rowAt, found]; rfl)]
  · rintro rfl
    induction lines with
    | nil => exact .nil
    | cons line lines ih =>
      obtain ⟨start, line⟩ := line
      cases found : scanRow line with
      | none =>
        rw [List.filterMap_cons_none (by rw [rowAt, found]; rfl)]
        refine .other (fun entry isRow => ?_) ih
        rw [scanRow_iff.mpr isRow] at found
        cases found
      | some entry =>
        have at_start : rowAt (start, line) = some (start, entry) := by rw [rowAt, found]; rfl
        rw [List.filterMap_cons_some at_start]
        exact .row (scanRow_iff.mp found) ih

/-- A load takes the first 100 well-formed lines after the first line, each from its start, and sorts them;
every name fits its field. -/
structure LoadsLines (file : List UInt8) (table : ScoreTable) : Prop where
  lines : ∃ rows, RowsOf (tableLines file) rows ∧ storedRows file = rows.take maxHighscores
  sorts : StableSort.IsStableSort HighScoreEntry.score ((storedRows file).map Prod.snd)
    (loadHighscoresFromCsv (some file) table).entries
  names : ∀ entry ∈ (loadHighscoresFromCsv (some file) table).entries,
    1 ≤ entry.name.length ∧ entry.name.length + 1 ≤ maxNameLength

theorem sorts_stored (file : List UInt8) (table : ScoreTable) :
    StableSort.IsStableSort HighScoreEntry.score ((storedRows file).map Prod.snd)
      (loadHighscoresFromCsv (some file) table).entries := by
  have sorts := entries_load (some file) table
  have same : (parsed (some file)).take maxHighscores = (storedRows file).map Prod.snd := by
    rw [← entries_stored file table, entries_loadLines]
    rfl
  rwa [same] at sorts

theorem names_stored (file : List UInt8) (table : ScoreTable) :
    ∀ entry ∈ (loadHighscoresFromCsv (some file) table).entries,
      1 ≤ entry.name.length ∧ entry.name.length + 1 ≤ maxNameLength := by
  intro entry member
  have stored := (entries_load (some file) table).perm.subset member
  obtain ⟨line, -, scanned⟩ := List.mem_filterMap.mp (List.mem_of_mem_take stored)
  exact scanRow_name scanned

/-- Only the rows can go wrong. -/
theorem loadsLines_iff {file : List UInt8} {table : ScoreTable} :
    LoadsLines file table ↔ storedRows file = ((tableLines file).filterMap rowAt).take maxHighscores := by
  constructor
  · rintro ⟨⟨rows, rowsOf, same⟩, -, -⟩
    rw [same, rowsOf_iff.mp rowsOf]
  · exact fun same => ⟨⟨_, rowsOf_iff.mpr rfl, same⟩, sorts_stored file table, names_stored file table⟩

/-! ### Reads and lines in step -/

/-- No read of a line behind its first one is a row. -/
def QuietBehind (line : List UInt8) : Prop :=
  ∀ piece ∈ fgetsLines (line.drop (lineSize - 1)), scanRow piece = none

/-- While there is room, the first read of each line is scanned as the line is, and its further reads are
not rows. -/
structure ReadsAsLines (room : Nat) (lines : List (List UInt8)) : Prop where
  first : ∀ before line after, lines = before ++ line :: after →
    (before.filterMap scanRow).length < room → scanRow (line.take (lineSize - 1)) = scanRow line
  behind : ∀ before line after, lines = before ++ line :: after →
    ((before ++ [line]).filterMap scanRow).length < room → QuietBehind line

theorem length_filterMap_cons (line : List UInt8) (lines : List (List UInt8)) :
    ((line :: lines).filterMap scanRow).length =
      (scanRow line).toList.length + (lines.filterMap scanRow).length := by
  cases found : scanRow line with
  | none => rw [List.filterMap_cons_none found, Option.toList_none, List.length_nil, Nat.zero_add]
  | some entry =>
    rw [List.filterMap_cons_some found, Option.toList_some, List.length_cons, List.length_singleton,
      Nat.add_comm]

/-- One line of the condition. -/
theorem readsAsLines_cons_iff {room : Nat} {line : List UInt8} {lines : List (List UInt8)} :
    ReadsAsLines room (line :: lines) ↔
      ((0 < room → scanRow (line.take (lineSize - 1)) = scanRow line) ∧
        ((scanRow line).toList.length < room → QuietBehind line)) ∧
      ReadsAsLines (room - (scanRow line).toList.length) lines := by
  constructor
  · rintro ⟨first, behind⟩
    refine ⟨⟨first [] line lines rfl, fun left => behind [] line lines rfl ?_⟩, ⟨?_, ?_⟩⟩
    · rw [List.nil_append, length_filterMap_cons]
      exact left
    · rintro before other after rfl left
      refine first (line :: before) other after rfl ?_
      rw [length_filterMap_cons]
      omega
    · rintro before other after rfl left
      refine behind (line :: before) other after rfl ?_
      rw [List.cons_append, length_filterMap_cons]
      omega
  · rintro ⟨⟨atFirst, atBehind⟩, ⟨first, behind⟩⟩
    refine ⟨?_, ?_⟩
    · intro before other after split left
      cases before with
      | nil =>
        cases split
        exact atFirst left
      | cons head before =>
        cases split
        rw [length_filterMap_cons] at left
        exact first before other after rfl (by omega)
    · intro before other after split left
      cases before with
      | nil =>
        cases split
        rw [List.nil_append, length_filterMap_cons] at left
        exact atBehind left
      | cons head before =>
        cases split
        rw [List.cons_append, length_filterMap_cons] at left
        exact behind before other after rfl (by omega)

/-- The rows among the pieces, from a position on. -/
def rowsFrom (start : Nat) (pieces : List (List UInt8)) : List (Nat × HighScoreEntry) :=
  (Lines.located start pieces).filterMap rowAt

theorem rowsFrom_append (start : Nat) (first second : List (List UInt8)) :
    rowsFrom start (first ++ second) =
      rowsFrom start first ++ rowsFrom (start + first.flatten.length) second := by
  rw [rowsFrom, Lines.located_append, List.filterMap_append]
  rfl

theorem rowsFrom_bounds {pieces : List (List UInt8)} (some_piece : ∀ piece ∈ pieces, piece ≠ [])
    (start : Nat) :
    ∀ row ∈ rowsFrom start pieces, start ≤ row.1 ∧ row.1 < start + pieces.flatten.length := by
  intro row member
  obtain ⟨piece, inside, found⟩ := List.mem_filterMap.mp member
  obtain ⟨entry, -, rfl⟩ := Option.map_eq_some_iff.mp found
  exact Lines.located_bounds some_piece start piece inside

theorem flatten_fgetsLines (input : List UInt8) : (fgetsLines input).flatten = input :=
  Lines.flatten_windows (by decide) input

/-- The rows of a part of the file begin in it. -/
theorem rowsFrom_reads_bounds (input : List UInt8) (start : Nat) :
    ∀ row ∈ rowsFrom start (fgetsLines input), start ≤ row.1 ∧ row.1 < start + input.length := by
  intro row member
  have bounds := rowsFrom_bounds (Lines.ne_nil_of_mem_windows (by decide) input) start row member
  have whole : (Lines.windows newline (lineSize - 1) input).flatten = input := flatten_fgetsLines input
  rwa [whole] at bounds

theorem rowsFrom_eq_nil_iff {start : Nat} {pieces : List (List UInt8)} :
    rowsFrom start pieces = [] ↔ ∀ piece ∈ pieces, scanRow piece = none := by
  have noRow (piece : Nat × List UInt8) : rowAt piece = none ↔ scanRow piece.2 = none :=
    Option.map_eq_none_iff
  rw [rowsFrom, List.filterMap_eq_nil_iff]
  constructor
  · intro quiet piece member
    rw [← Lines.map_snd_located start pieces] at member
    obtain ⟨place, inside, rfl⟩ := List.mem_map.mp member
    exact (noRow place).mp (quiet place inside)
  · intro quiet place inside
    refine (noRow place).mpr (quiet place.2 ?_)
    rw [← Lines.map_snd_located start pieces]
    exact List.mem_map_of_mem inside

/-- A piece gives at most one row, at its start. -/
theorem rowsFrom_singleton (start : Nat) (piece : List UInt8) :
    rowsFrom start [piece] = ((scanRow piece).map fun entry => (start, entry)).toList := by
  cases found : scanRow piece <;> simp [rowsFrom, Lines.located, rowAt, found]

theorem length_rowsFrom_singleton (start : Nat) (piece : List UInt8) :
    (rowsFrom start [piece]).length = (scanRow piece).toList.length := by
  rw [rowsFrom_singleton]
  cases scanRow piece <;> rfl

theorem rowsFrom_singleton_inj {start : Nat} {piece other : List UInt8} :
    rowsFrom start [piece] = rowsFrom start [other] ↔ scanRow piece = scanRow other := by
  rw [rowsFrom_singleton, rowsFrom_singleton]
  constructor
  · intro same
    have rows := congrArg List.head? same
    rw [Option.head?_toList, Option.head?_toList] at rows
    exact Option.map_injective (fun first second equal => (Prod.mk.inj equal).2) rows
  · intro same
    rw [same]

/-- Rows that begin before a position and rows that begin behind it are compared apart. -/
theorem take_rows_iff (cutoff : Nat) {first second first' second' : List (Nat × HighScoreEntry)}
    (early : ∀ row ∈ first, row.1 < cutoff) (late : ∀ row ∈ second, cutoff ≤ row.1)
    (early' : ∀ row ∈ first', row.1 < cutoff) (late' : ∀ row ∈ second', cutoff ≤ row.1) (room : Nat) :
    (first ++ second).take room = (first' ++ second').take room ↔
      first.take room = first'.take room ∧
        second.take (room - first.length) = second'.take (room - first'.length) :=
  @Lines.take_append_iff _ (fun row => decide (row.1 < cutoff)) _ _ _ _
    (fun row member => decide_eq_true (early row member))
    (fun row member => decide_eq_false (Nat.not_lt.mpr (late row member)))
    (fun row member => decide_eq_true (early' row member))
    (fun row member => decide_eq_false (Nat.not_lt.mpr (late' row member))) room

/-- One line: its reads give what the line gives. -/
theorem line_agrees_iff {line : List UInt8} (isLine : Lines.IsLine newline line) (start room : Nat) :
    (rowsFrom start (fgetsLines line)).take room = (rowsFrom start [line]).take room ↔
      (0 < room → scanRow (line.take (lineSize - 1)) = scanRow line) ∧
        ((scanRow line).toList.length < room → QuietBehind line) := by
  have reads : fgetsLines line = [line.take (lineSize - 1)] ++ fgetsLines (line.drop (lineSize - 1)) :=
    Lines.windows_of_isLine (by decide) isLine
  have atStart (piece : List UInt8) : ∀ row ∈ rowsFrom start [piece], row.1 < start + 1 := by
    intro row member
    rw [rowsFrom_singleton] at member
    obtain ⟨entry, -, rfl⟩ := Option.map_eq_some_iff.mp (Option.mem_toList.mp member)
    exact Nat.lt_succ_self start
  have later : ∀ row ∈ rowsFrom (start + [line.take (lineSize - 1)].flatten.length)
      (fgetsLines (line.drop (lineSize - 1))), start + 1 ≤ row.1 := by
    intro row member
    have positive := List.length_pos_of_ne_nil isLine.1
    have bounds := rowsFrom_reads_bounds _ _ row member
    have size : [line.take (lineSize - 1)].flatten.length = min (lineSize - 1) line.length := by
      rw [List.flatten_singleton, List.length_take]
    have room : lineSize - 1 = 255 := rfl
    omega
  have apart := take_rows_iff (start + 1) (atStart (line.take (lineSize - 1))) later (atStart line)
    (fun row member => absurd member List.not_mem_nil) room
  rw [← rowsFrom_append, ← reads, List.append_nil] at apart
  rw [apart]
  rcases Nat.eq_zero_or_pos room with rfl | positive
  · simp
  have whole (piece : List UInt8) : (rowsFrom start [piece]).take room = rowsFrom start [piece] := by
    refine List.take_of_length_le ?_
    rw [length_rowsFrom_singleton]
    exact Nat.le_trans Option.length_toList_le positive
  rw [whole, whole, rowsFrom_singleton_inj, List.take_nil, List.take_eq_nil_iff, rowsFrom_eq_nil_iff,
    length_rowsFrom_singleton]
  constructor
  · rintro ⟨same, full | quiet⟩
    · refine ⟨fun _ => same, fun left => ?_⟩
      rw [same] at full
      omega
    · exact ⟨fun _ => same, fun _ => quiet⟩
  · rintro ⟨same, quiet⟩
    refine ⟨same positive, ?_⟩
    rw [same positive]
    rcases Nat.lt_or_ge (scanRow line).toList.length room with left | full
    · exact .inr (quiet left)
    · exact .inl (Nat.sub_eq_zero_of_le full)

theorem readsAsLines_nil (room : Nat) : ReadsAsLines room [] := by
  refine ⟨?_, ?_⟩ <;> intro before line after split <;> exact absurd split (by simp)

theorem ne_nil_of_mem_reads (lines : List (List UInt8)) :
    ∀ read ∈ lines.flatMap fgetsLines, read ≠ [] := by
  intro read inside
  obtain ⟨line, -, isRead⟩ := List.mem_flatMap.mp inside
  exact Lines.ne_nil_of_mem_windows (by decide) line read isRead

/-- **Reads and lines agree** on their rows, up to a full table, just when the reads stand for the lines. -/
theorem rows_agree_iff {lines : List (List UInt8)} (areLines : ∀ line ∈ lines, Lines.IsLine newline line)
    (start room : Nat) :
    (rowsFrom start (lines.flatMap fgetsLines)).take room = (rowsFrom start lines).take room ↔
      ReadsAsLines room lines := by
  induction lines generalizing start room with
  | nil => exact iff_of_true rfl (readsAsLines_nil room)
  | cons line lines ih =>
    have isLine := areLines line List.mem_cons_self
    have others := fun other member => areLines other (List.mem_cons_of_mem line member)
    have early : ∀ row ∈ rowsFrom start (fgetsLines line), row.1 < start + line.length :=
      fun row member => (rowsFrom_reads_bounds line start row member).2
    have early' : ∀ row ∈ rowsFrom start [line], row.1 < start + line.length := by
      intro row member
      have alone : ∀ piece ∈ [line], piece ≠ [] := fun piece inside => by
        rw [List.mem_singleton.mp inside]
        exact isLine.1
      have bounds := (rowsFrom_bounds alone start row member).2
      rwa [List.flatten_singleton] at bounds
    have late : ∀ row ∈ rowsFrom (start + line.length) (lines.flatMap fgetsLines),
        start + line.length ≤ row.1 :=
      fun row member => (rowsFrom_bounds (ne_nil_of_mem_reads lines) _ row member).1
    have late' : ∀ row ∈ rowsFrom (start + line.length) lines, start + line.length ≤ row.1 :=
      fun row member => (rowsFrom_bounds (fun other inside => (others other inside).1) _ row member).1
    have apart := take_rows_iff (start + line.length) early late early' late' room
    have rows : rowsFrom start ((line :: lines).flatMap fgetsLines) =
        rowsFrom start (fgetsLines line) ++
          rowsFrom (start + line.length) (lines.flatMap fgetsLines) := by
      rw [List.flatMap_cons, rowsFrom_append, flatten_fgetsLines]
    have rows' : rowsFrom start (line :: lines) =
        rowsFrom start [line] ++ rowsFrom (start + line.length) lines := by
      rw [← List.singleton_append, rowsFrom_append, List.flatten_singleton]
    rw [rows, rows', apart, readsAsLines_cons_iff, ← line_agrees_iff isLine start room]
    refine and_congr_right fun agrees => ?_
    -- as many rows of the line count against the room
    have left : room - (rowsFrom start (fgetsLines line)).length = room - (scanRow line).toList.length := by
      have sizes := congrArg List.length agrees
      rw [List.length_take, List.length_take, length_rowsFrom_singleton] at sizes
      omega
    rw [left, length_rowsFrom_singleton]
    exact ih others _ _

/-! ### Files -/

/-- No read of the first line behind its first one is a row; and while fewer than 100 rows are found, every
later line is read as if the buffer had room for it. -/
structure ReadsInStep (file : List UInt8) : Prop where
  header : ∀ line ∈ (Lines.physical newline file).head?, QuietBehind line
  table : ReadsAsLines maxHighscores (Lines.physical newline file).tail

/-- The reads of all lines, the first of them dropped. -/
theorem loop_agrees_iff {header : List UInt8} {lines : List (List UInt8)}
    (areLines : ∀ line ∈ header :: lines, Lines.IsLine newline line) :
    ((Lines.located 0 ((header :: lines).flatMap fgetsLines)).tail.filterMap rowAt).take maxHighscores =
        ((Lines.located 0 (header :: lines)).tail.filterMap rowAt).take maxHighscores ↔
      QuietBehind header ∧ ReadsAsLines maxHighscores lines := by
  have isLine := areLines header List.mem_cons_self
  have others := fun line member => areLines line (List.mem_cons_of_mem header member)
  have reads : fgetsLines header = header.take (lineSize - 1) :: fgetsLines (header.drop (lineSize - 1)) :=
    Lines.windows_of_isLine (by decide) isLine
  have split : (header.take (lineSize - 1)).length + (header.drop (lineSize - 1)).length = header.length := by
    rw [← List.length_append, List.take_append_drop]
  have early : ∀ row ∈ rowsFrom (header.take (lineSize - 1)).length
      (fgetsLines (header.drop (lineSize - 1))), row.1 < header.length := by
    intro row member
    have bounds := (rowsFrom_reads_bounds _ _ row member).2
    rwa [split] at bounds
  have late := fun row member =>
    (rowsFrom_bounds (fun read inside => ne_nil_of_mem_reads lines read inside) header.length row member).1
  have late' := fun row member =>
    (rowsFrom_bounds (fun line inside => (others line inside).1) header.length row member).1
  have apart := take_rows_iff header.length early late
    (fun row member => absurd member List.not_mem_nil) late' maxHighscores
  have rows : (Lines.located 0 ((header :: lines).flatMap fgetsLines)).tail.filterMap rowAt =
      rowsFrom (header.take (lineSize - 1)).length (fgetsLines (header.drop (lineSize - 1))) ++
        rowsFrom header.length (lines.flatMap fgetsLines) := by
    rw [List.flatMap_cons, reads, List.cons_append, Lines.located, List.tail_cons, Nat.zero_add]
    show rowsFrom _ _ = _
    rw [rowsFrom_append, flatten_fgetsLines, split]
  have rows' : (Lines.located 0 (header :: lines)).tail.filterMap rowAt =
      [] ++ rowsFrom header.length lines := by
    rw [Lines.located, List.tail_cons, Nat.zero_add]
    rfl
  rw [rows, rows', apart, List.take_nil, List.take_eq_nil_iff, rowsFrom_eq_nil_iff,
    ← rows_agree_iff others header.length maxHighscores, List.length_nil, Nat.sub_zero]
  have cap : maxHighscores ≠ 0 := by decide
  rw [or_iff_right cap]
  refine and_congr_right fun quiet => ?_
  rw [rowsFrom_eq_nil_iff.mpr quiet, List.length_nil, Nat.sub_zero]

/-- **When a load takes exactly the lines.** -/
theorem load_lines_iff (file : List UInt8) (table : ScoreTable) :
    LoadsLines file table ↔ ReadsInStep file := by
  have reads : fgetsLines file = (Lines.physical newline file).flatMap fgetsLines :=
    Lines.windows_eq_flatMap (by decide) file
  have areLines : ∀ line ∈ Lines.physical newline file, Lines.IsLine newline line :=
    Lines.isLine_of_mem_physical
  have inStep : ReadsInStep file ↔ (∀ line ∈ (Lines.physical newline file).head?, QuietBehind line) ∧
      ReadsAsLines maxHighscores (Lines.physical newline file).tail :=
    ⟨fun both => ⟨both.header, both.table⟩, fun both => ⟨both.1, both.2⟩⟩
  rw [loadsLines_iff, inStep, storedRows, reads, tableLines]
  cases lines : Lines.physical newline file with
  | nil =>
    refine iff_of_true rfl ⟨fun line first => ?_, readsAsLines_nil _⟩
    cases first
  | cons header others =>
    rw [lines] at areLines
    rw [loop_agrees_iff areLines, List.head?_cons, List.tail_cons]
    simp

theorem quietBehind_of_short {line : List UInt8} (short : line.length ≤ lineSize - 1) :
    QuietBehind line := by
  intro piece member
  rw [List.drop_of_length_le short] at member
  exact absurd member List.not_mem_nil

/-- Files whose lines fit the buffer. -/
theorem readsInStep_of_short {file : List UInt8}
    (short : ∀ line ∈ Lines.physical newline file, line.length ≤ lineSize - 1) : ReadsInStep file := by
  have inside {before after : List (List UInt8)} {line : List UInt8}
      (split : (Lines.physical newline file).tail = before ++ line :: after) :
      line.length ≤ lineSize - 1 := by
    refine short line (List.mem_of_mem_tail ?_)
    rw [split]
    exact List.mem_append_right _ List.mem_cons_self
  refine ⟨fun line first => quietBehind_of_short (short line (List.mem_of_head? first)), ⟨?_, ?_⟩⟩
  · intro before line after split _
    rw [List.take_of_length_le (inside split)]
  · intro before line after split _
    exact quietBehind_of_short (inside split)

/-- A first line, and a line longer than the buffer with a row behind its first 255 bytes. -/
def longLine : List UInt8 := csvHeader ++ (List.replicate 255 120 ++ (bytes "a,1,2,3" ++ [newline]))

/-- **An entry from the middle of a line.** -/
theorem not_loadsLines_middle : ¬ LoadsLines longLine .empty := by
  intro loads
  have same := loadsLines_iff.mp loads
  revert same
  decide +kernel

end SpaceInvaders
