/-
**The score table and its file**: the second half of `score.c`.

The file is the list of its bytes, or `none` when `fopen` cannot open it for reading. The array
`highscores` keeps its 100 entries, the ones from `highscore_count` on being stale; what the game
shows are the `entries` before it. Reading goes through `fgets` windows of 255 bytes
(`Lines.windows`), rows are printed and scanned with the conversions of `Decimal`.
-/

import SpaceInvaders.Lib.Decimal
import SpaceInvaders.Lib.Lines
import SpaceInvaders.Lib.StableSort
import Mathlib.Data.UInt

namespace SpaceInvaders

/-- The bytes of a string literal. -/
def bytes (text : String) : List UInt8 := text.toUTF8.data.toList

def newline : UInt8 := 10
def comma : UInt8 := 44

def maxNameLength : Nat := 20
def maxHighscores : Nat := 100

/-- The struct `HighScoreEntry`; a name is its bytes before the terminator. -/
structure HighScoreEntry where
  name : List UInt8
  score : Int
  bulletsFired : Int
  gameTimeSeconds : Int
deriving DecidableEq

/-! ### The table -/

/-- The function `sort_highscores` on an array of any length. -/
def sortHighscores (count : Nat) (highscores : List HighScoreEntry) : List HighScoreEntry :=
  if count ≤ 1 then highscores else StableSort.bubbleSort HighScoreEntry.score count highscores

theorem sortHighscores_spec (front rest : List HighScoreEntry) :
    ∃ sorted, sortHighscores front.length (front ++ rest) = sorted ++ rest ∧
      StableSort.IsStableSort HighScoreEntry.score front sorted := by
  unfold sortHighscores
  by_cases short : front.length ≤ 1
  · rw [if_pos short]
    refine ⟨front, rfl, StableSort.IsStableSort.refl ?_⟩
    match front, short with
    | [], _ => exact List.Pairwise.nil
    | [entry], _ => exact List.pairwise_singleton _ entry
  · rw [if_neg short]
    exact StableSort.bubbleSort_spec front rest

/-- The loops sort the front of an array that is long enough. -/
theorem sortHighscores_take {count : Nat} {highscores : List HighScoreEntry}
    (within : count ≤ highscores.length) :
    ∃ sorted, sortHighscores count highscores = sorted ++ highscores.drop count ∧
      StableSort.IsStableSort HighScoreEntry.score (highscores.take count) sorted := by
  have spec := sortHighscores_spec (highscores.take count) (highscores.drop count)
  rwa [List.length_take_of_le within, List.take_append_drop] at spec

/-- The array `highscores` with `highscore_count`. -/
structure ScoreTable where
  highscores : List HighScoreEntry
  highscoreCount : Nat
  sized : highscores.length = maxHighscores
  within : highscoreCount ≤ maxHighscores

namespace ScoreTable

/-- The entries `highscores[0..highscore_count)`. -/
def entries (table : ScoreTable) : List HighScoreEntry :=
  table.highscores.take table.highscoreCount

theorem within_length (table : ScoreTable) : table.highscoreCount ≤ table.highscores.length := by
  rw [table.sized]
  exact table.within

theorem entries_length (table : ScoreTable) : table.entries.length = table.highscoreCount :=
  List.length_take_of_le table.within_length

/-- The table of a program that has not loaded anything. -/
def empty : ScoreTable where
  highscores := List.replicate maxHighscores ⟨[], 0, 0, 0⟩
  highscoreCount := 0
  sized := List.length_replicate
  within := Nat.zero_le _

/-- The assignment `highscore_count = 0`. -/
def clear (table : ScoreTable) : ScoreTable :=
  { table with highscoreCount := 0, within := Nat.zero_le _ }

@[simp] theorem entries_clear (table : ScoreTable) : table.clear.entries = [] := rfl

/-- Write an entry at `highscore_count` and count it. -/
def push (table : ScoreTable) (entry : HighScoreEntry)
    (room : table.highscoreCount < maxHighscores) : ScoreTable where
  highscores := table.highscores.set table.highscoreCount entry
  highscoreCount := table.highscoreCount + 1
  sized := by rw [List.length_set, table.sized]
  within := room

theorem entries_push (table : ScoreTable) (entry : HighScoreEntry)
    (room : table.highscoreCount < maxHighscores) :
    (table.push entry room).entries = table.entries ++ [entry] := by
  have inside : table.highscoreCount < table.highscores.length := by rwa [table.sized]
  show (table.highscores.set table.highscoreCount entry).take (table.highscoreCount + 1) = _
  rw [List.take_add_one, List.take_set_of_le le_rfl, List.getElem?_set_self inside]
  rfl

/-- The loop bounds of `sort_highscores` are those of the table. -/
def sort (table : ScoreTable) : ScoreTable where
  highscores := sortHighscores table.highscoreCount table.highscores
  highscoreCount := table.highscoreCount
  sized := by
    obtain ⟨sorted, reached, sorts⟩ := sortHighscores_take table.within_length
    rw [reached, List.length_append, sorts.length_eq, ← List.length_append, List.take_append_drop,
      table.sized]
  within := table.within

/-- **Sorting the table** sorts its entries stably. -/
theorem entries_sort (table : ScoreTable) :
    StableSort.IsStableSort HighScoreEntry.score table.entries table.sort.entries := by
  obtain ⟨sorted, reached, sorts⟩ := sortHighscores_take table.within_length
  have taken : table.sort.entries = sorted := by
    show (sortHighscores table.highscoreCount table.highscores).take table.highscoreCount = sorted
    have size : sorted.length = table.highscoreCount := sorts.length_eq.trans table.entries_length
    rw [reached, ← size, List.take_left]
  rw [taken]
  exact sorts

end ScoreTable

/-! ### Rows -/

/-- The line `fprintf(file, "%s,%d,%d,%d\n", …)` writes, without its newline. -/
def rowBody (entry : HighScoreEntry) : List UInt8 :=
  entry.name ++ comma :: Decimal.integer entry.score ++
    comma :: Decimal.integer entry.bulletsFired ++ comma :: Decimal.integer entry.gameTimeSeconds

def row (entry : HighScoreEntry) : List UInt8 := rowBody entry ++ [newline]

/-- The header line. -/
def csvHeader : List UInt8 := bytes "Name,Score,Bullets_Fired,Game_Time_Seconds" ++ [newline]

/-- The value `%d` stores for a scanned number: `strtoimax` saturates, the store to an `int` keeps
the low 32 bits. -/
def toInt32 (value : Int) : Int :=
  Int.bmod (max (-2 ^ 63) (min (2 ^ 63 - 1) value)) (2 ^ 32)

/-- One `,%d` of the format. -/
def scanCommaInt : List UInt8 → Option (Int × List UInt8)
  | [] => none
  | byte :: rest =>
    if byte = comma then (Decimal.scanInteger rest).map fun read => (toInt32 read.1, read.2) else none

/-- The call `sscanf(line, "%19[^,],%d,%d,%d", …) == 4`: the four stored values. The buffer is a C
string, so what follows a zero byte is not seen. -/
def scanRow (line : List UInt8) : Option HighScoreEntry :=
  let text := line.takeWhile fun byte => byte ≠ 0
  let name := (text.takeWhile fun byte => byte ≠ comma).take (maxNameLength - 1)
  if name = [] then none
  else do
    let (score, rest) ← scanCommaInt (text.drop name.length)
    let (bulletsFired, rest) ← scanCommaInt rest
    let (gameTimeSeconds, _) ← scanCommaInt rest
    return ⟨name, score, bulletsFired, gameTimeSeconds⟩

/-! ### Loading -/

/-- The length of the buffer `line`, with its terminator. -/
def lineSize : Nat := 256

/-- The successive results of `fgets(line, sizeof(line), file)`. -/
def fgetsLines (file : List UInt8) : List (List UInt8) :=
  Lines.windows newline (lineSize - 1) file

/-- The reading loop of `load_highscores_from_csv`: it stops at a full table. -/
def loadLines : List (List UInt8) → ScoreTable → ScoreTable
  | [], table => table
  | line :: lines, table =>
    if room : table.highscoreCount < maxHighscores then
      match scanRow line with
      | some entry => loadLines lines (table.push entry room)
      | none => loadLines lines table
    else table

/-- The function `load_highscores_from_csv`. -/
def loadHighscoresFromCsv (csv : Option (List UInt8)) (table : ScoreTable) : ScoreTable :=
  match csv with
  | none => table.clear
  | some file =>
    match fgetsLines file with
    | [] => table.clear
    -- the first line is the header
    | _ :: lines => (loadLines lines table.clear).sort

/-! ### Saving -/

/-- How the file operations of one save go: whether `fopen` succeeds in append and in write mode,
and, when the row's `fprintf` fails, the bytes of the row that were written all the same. -/
structure FileOutcome where
  appendOpens : Bool
  writeOpens : Bool
  printFails : Option (List UInt8)

/-- All file operations succeed. -/
def FileOutcome.success : FileOutcome := ⟨true, true, none⟩

/-- The file after a successful `fopen`, and the flag `file_exists`: append mode keeps the content,
write mode starts an empty file. -/
def openForSave (outcome : FileOutcome) (csv : Option (List UInt8)) :
    Option (List UInt8 × Bool) :=
  if outcome.appendOpens then some (csv.getD [], csv.isSome)
  else if outcome.writeOpens then some ([], false)
  else none

/-- The update of the array in `save_highscore_to_csv`: only below the cap. -/
def addHighscore (entry : HighScoreEntry) (table : ScoreTable) : ScoreTable :=
  if room : table.highscoreCount < maxHighscores then (table.push entry room).sort else table

/-- The function `save_highscore_to_csv`: its return value, the file and the table. -/
def saveHighscoreToCsv (outcome : FileOutcome) (entry : HighScoreEntry)
    (csv : Option (List UInt8)) (table : ScoreTable) : Int × Option (List UInt8) × ScoreTable :=
  match openForSave outcome csv with
  | none => (-1, csv, table)
  | some (content, fileExists) =>
    let content := if fileExists then content else content ++ csvHeader
    match outcome.printFails with
    | some written => (-1, some (content ++ written), table)
    | none => (0, some (content ++ row entry), addHighscore entry table)

end SpaceInvaders
