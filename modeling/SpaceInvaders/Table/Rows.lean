/-
**Which lines are rows.**

`IsRow text entry` is the written format, without a parser: 1 to 19 characters other than a comma, then
three decimal integers, each behind a comma. `scanRow_iff`: these lines, and no others, are what the
`sscanf` of the score file accepts, and the entry is the one it stores.
-/

import SpaceInvaders.Model.HighScores

namespace SpaceInvaders

/-- The bytes `sscanf` sees. -/
def scannedText (line : List UInt8) : List UInt8 := line.takeWhile fun byte => byte ≠ 0

/-- The bytes the format's `%19[^,]` takes. -/
def scannedName (line : List UInt8) : List UInt8 :=
  ((scannedText line).takeWhile fun byte => byte ≠ comma).take (maxNameLength - 1)

/-- A line without a zero byte is seen whole. -/
theorem scannedText_of_plain {line : List UInt8} (plain : ∀ byte ∈ line, byte ≠ 0) :
    scannedText line = line := by
  rw [scannedText, List.takeWhile_eq_self_iff]
  intro byte member
  rw [decide_eq_true_eq]
  exact plain byte member

/-- A decimal integer, and the `int` it is stored as. -/
def IsNumber (field : List UInt8) (value : Int) : Prop :=
  ∃ number, Decimal.Denotes field number ∧ value = toInt32 number

/-- The text begins with a row. -/
def IsRow (text : List UInt8) (entry : HighScoreEntry) : Prop :=
  ∃ first second third rest,
    text = entry.name ++ comma :: (first ++ comma :: (second ++ comma :: (third ++ rest))) ∧
      (1 ≤ entry.name.length ∧ entry.name.length ≤ 19 ∧ comma ∉ entry.name) ∧
      IsNumber first entry.score ∧ IsNumber second entry.bulletsFired ∧
      IsNumber third entry.gameTimeSeconds ∧ Decimal.StopsDigits rest

/-- A well-formed line: as a C string, it begins with a row. -/
def IsRowLine (line : List UInt8) (entry : HighScoreEntry) : Prop := IsRow (scannedText line) entry

theorem stopsDigits_comma (rest : List UInt8) : Decimal.StopsDigits (comma :: rest) := by
  intro byte first
  cases first
  decide

/-- One `,%d` takes a comma and a number. -/
theorem scanCommaInt_iff {bytes rest : List UInt8} {value : Int} :
    scanCommaInt bytes = some (value, rest) ↔
      ∃ field, bytes = comma :: (field ++ rest) ∧ IsNumber field value ∧
        Decimal.StopsDigits rest := by
  constructor
  · intro scanned
    cases bytes with
    | nil => cases scanned
    | cons byte bytes =>
      rw [scanCommaInt] at scanned
      by_cases separator : byte = comma
      · rw [if_pos separator] at scanned
        obtain ⟨⟨number, after⟩, inner, same⟩ := Option.map_eq_some_iff.mp scanned
        cases same
        obtain ⟨field, rfl, denotes, stops⟩ := Decimal.scanInteger_iff.mp inner
        exact ⟨field, by rw [separator], ⟨number, denotes, rfl⟩, stops⟩
      · rw [if_neg separator] at scanned
        cases scanned
  · rintro ⟨field, rfl, ⟨number, denotes, rfl⟩, stops⟩
    rw [scanCommaInt, if_pos rfl, Decimal.scanInteger_iff.mpr ⟨field, rfl, denotes, stops⟩]
    rfl

/-- The three numbers behind a name. -/
def scanNumbers (name text : List UInt8) : Option HighScoreEntry := do
  let (score, rest) ← scanCommaInt text
  let (bulletsFired, rest) ← scanCommaInt rest
  let (gameTimeSeconds, _) ← scanCommaInt rest
  return ⟨name, score, bulletsFired, gameTimeSeconds⟩

theorem scanRow_eq (line : List UInt8) :
    scanRow line = if scannedName line = [] then none
      else scanNumbers (scannedName line) ((scannedText line).drop (scannedName line).length) :=
  rfl

theorem scanNumbers_iff {name text : List UInt8} {entry : HighScoreEntry} :
    scanNumbers name text = some entry ↔
      entry.name = name ∧ ∃ first second third rest,
        text = comma :: (first ++ comma :: (second ++ comma :: (third ++ rest))) ∧
        IsNumber first entry.score ∧ IsNumber second entry.bulletsFired ∧
        IsNumber third entry.gameTimeSeconds ∧ Decimal.StopsDigits rest := by
  unfold scanNumbers
  simp only [Option.bind_eq_bind, Option.bind_eq_some_iff]
  constructor
  · rintro ⟨⟨score, rest⟩, readScore, ⟨bulletsFired, rest'⟩, readFired, ⟨time, rest''⟩, readTime, same⟩
    cases same
    obtain ⟨first, rfl, isScore, -⟩ := scanCommaInt_iff.mp readScore
    obtain ⟨second, rfl, isFired, -⟩ := scanCommaInt_iff.mp readFired
    obtain ⟨third, rfl, isTime, stops⟩ := scanCommaInt_iff.mp readTime
    exact ⟨rfl, first, second, third, rest'', rfl, isScore, isFired, isTime, stops⟩
  · rintro ⟨rfl, first, second, third, rest, rfl, isScore, isFired, isTime, stops⟩
    refine ⟨_, scanCommaInt_iff.mpr ⟨first, rfl, isScore, stopsDigits_comma _⟩, _,
      scanCommaInt_iff.mpr ⟨second, rfl, isFired, stopsDigits_comma _⟩, _,
      scanCommaInt_iff.mpr ⟨third, rfl, isTime, stops⟩, rfl⟩

theorem scannedName_spec (line : List UInt8) :
    scannedName line ++ (scannedText line).drop (scannedName line).length = scannedText line ∧
      (scannedName line).length ≤ 19 ∧ comma ∉ scannedName line := by
  have front : scannedName line <+: scannedText line :=
    (List.take_prefix _ _).trans (List.takeWhile_prefix _)
  refine ⟨List.prefix_iff_eq_append.mp front, List.length_take_le _ _, fun member => ?_⟩
  exact absurd (List.mem_takeWhile_imp (List.mem_of_mem_take member)) (by decide)

/-- The name ends at the first comma. -/
theorem scannedName_of_split {line name rest : List UInt8}
    (split : scannedText line = name ++ comma :: rest) (plain : comma ∉ name)
    (short : name.length ≤ 19) : scannedName line = name := by
  have before : (scannedText line).takeWhile (fun byte => byte ≠ comma) = name := by
    rw [split, List.takeWhile_append_of_pos fun byte member => by
      rw [decide_eq_true_eq]
      exact fun same => plain (same ▸ member)]
    simp
  rw [scannedName, before]
  exact List.take_of_length_le short

/-- **What is scanned are the rows.** -/
theorem scanRow_iff {line : List UInt8} {entry : HighScoreEntry} :
    scanRow line = some entry ↔ IsRowLine line entry := by
  rw [scanRow_eq]
  constructor
  · intro scanned
    by_cases named : scannedName line = []
    · rw [if_pos named] at scanned
      cases scanned
    rw [if_neg named] at scanned
    obtain ⟨same, first, second, third, rest, behind, numbers⟩ := scanNumbers_iff.mp scanned
    obtain ⟨split, short, plain⟩ := scannedName_spec line
    rw [behind] at split
    rw [← same] at split named short plain
    exact ⟨first, second, third, rest, split.symm,
      ⟨List.length_pos_of_ne_nil named, short, plain⟩, numbers⟩
  · rintro ⟨first, second, third, rest, split, ⟨named, short, plain⟩, numbers⟩
    have name : scannedName line = entry.name := scannedName_of_split split plain short
    rw [name, if_neg (List.ne_nil_of_length_pos named)]
    refine scanNumbers_iff.mpr ⟨rfl, first, second, third, rest, ?_, numbers⟩
    rw [split, List.drop_left]

/-- A stored name fits its field with the terminator. -/
theorem scanRow_name {line : List UInt8} {entry : HighScoreEntry}
    (scanned : scanRow line = some entry) :
    1 ≤ entry.name.length ∧ entry.name.length + 1 ≤ maxNameLength := by
  obtain ⟨_, _, _, _, _, ⟨named, short, _⟩, _⟩ := scanRow_iff.mp scanned
  exact ⟨named, Nat.succ_le_succ short⟩

end SpaceInvaders
