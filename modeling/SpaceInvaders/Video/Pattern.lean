/-
**The test pattern.**

`video_test_pattern` of `lab5` draws `no_rectangles` rows and columns of rectangles, of `h` by `v` pixels.
In direct-colour mode the colour of a cell is put together of three fields.

* `dirMode_fields`: each field of the colour moves on by its amount, modulo its size, with no carry into
  another one;
* `pattern_drawn`: every rectangle is drawn, and in a frame of up to 2^32 bytes each pixel of the pattern
  has the colour of its cell;
* `not_pattern_wrapMode`: in a larger frame the pattern also reaches pixels behind it.
-/

import SpaceInvaders.Lib.Fields
import SpaceInvaders.Video.Shapes

namespace SpaceInvaders

namespace BackBuffer

open Fields Painting RowMajor

/-! ### The colour of a cell -/

/-- The three colour fields have at most 16 bits each, inside 32 bits, and share none. -/
structure DirectFields (mode : VbeModeInfo) : Prop where
  redSize : mode.RedMaskSize.toNat ≤ 16
  redInside : mode.RedFieldPosition.toNat + mode.RedMaskSize.toNat ≤ 32
  greenSize : mode.GreenMaskSize.toNat ≤ 16
  greenInside : mode.GreenFieldPosition.toNat + mode.GreenMaskSize.toNat ≤ 32
  blueSize : mode.BlueMaskSize.toNat ≤ 16
  blueInside : mode.BlueFieldPosition.toNat + mode.BlueMaskSize.toNat ≤ 32
  redGreen : Apart mode.RedMaskSize.toNat mode.RedFieldPosition.toNat
    mode.GreenMaskSize.toNat mode.GreenFieldPosition.toNat
  redBlue : Apart mode.RedMaskSize.toNat mode.RedFieldPosition.toNat
    mode.BlueMaskSize.toNat mode.BlueFieldPosition.toNat
  greenBlue : Apart mode.GreenMaskSize.toNat mode.GreenFieldPosition.toNat
    mode.BlueMaskSize.toNat mode.BlueFieldPosition.toNat

/-- The fields `R`, `G` and `B` of a colour. -/
def redField (mode : VbeModeInfo) (color : UInt32) : Nat :=
  field mode.RedMaskSize.toNat mode.RedFieldPosition.toNat color.toNat
def greenField (mode : VbeModeInfo) (color : UInt32) : Nat :=
  field mode.GreenMaskSize.toNat mode.GreenFieldPosition.toNat color.toNat
def blueField (mode : VbeModeInfo) (color : UInt32) : Nat :=
  field mode.BlueMaskSize.toNat mode.BlueFieldPosition.toNat color.toNat

/-- The power of two of a mask. -/
theorem one_shiftLeft_toNat {size : UInt8} (narrow : size.toNat ≤ 16) :
    ((1 : UInt32) <<< size.toUInt32).toNat = 2 ^ size.toNat := by
  have power : 2 ^ size.toNat < 2 ^ 32 := Nat.pow_lt_pow_right (by decide) (by omega)
  rw [UInt32.toNat_shiftLeft, UInt8.toNat_toUInt32, Nat.mod_eq_of_lt (by omega : size.toNat < 32),
    Nat.shiftLeft_eq]
  show 1 * 2 ^ size.toNat % 2 ^ 32 = _
  rw [Nat.one_mul, Nat.mod_eq_of_lt power]

/-- A field, moved on by an amount. -/
theorem fieldPlus_toNat {size position : UInt8} (narrow : size.toNat ≤ 16)
    (inside : position.toNat + size.toNat ≤ 32) (first amount : UInt32) :
    (fieldPlus size position first amount).toNat =
      (field size.toNat position.toNat first.toNat + amount.toNat) % 2 ^ size.toNat := by
  have mask := one_shiftLeft_toNat narrow
  have positive : 1 ≤ 2 ^ size.toNat := Nat.two_pow_pos _
  have minus : ((1 : UInt32) <<< size.toUInt32 - 1).toNat = 2 ^ size.toNat - 1 := by
    rw [UInt32.toNat_sub_of_le _ _ (by rw [UInt32.le_iff_toNat_le, mask]; exact positive), mask]
    rfl
  rw [fieldPlus, UInt32.toNat_mod, mask, UInt32.toNat_add, UInt32.toNat_and, minus,
    mod_mod_field (by omega : size.toNat ≤ 32), UInt32.toNat_shiftRight, UInt8.toNat_toUInt32,
    Nat.and_comm, Nat.and_two_pow_sub_one_eq_mod]
  rcases Nat.lt_or_ge position.toNat 32 with small | large
  · rw [Nat.mod_eq_of_lt small, Nat.shiftRight_eq_div_pow]
    rfl
  · -- a field without bits
    have none : size.toNat = 0 := by omega
    rw [none, Nat.pow_zero, Nat.mod_one, Nat.mod_one]

theorem fieldPlus_lt {size position : UInt8} (narrow : size.toNat ≤ 16)
    (inside : position.toNat + size.toNat ≤ 32) (first amount : UInt32) :
    (fieldPlus size position first amount).toNat < 2 ^ size.toNat := by
  rw [fieldPlus_toNat narrow inside]
  exact Nat.mod_lt _ (Nat.two_pow_pos _)

/-- A field's value, put at its position. -/
theorem shiftLeft_toNat {size position : UInt8} {value : UInt32}
    (small : value.toNat < 2 ^ size.toNat) (inside : position.toNat + size.toNat ≤ 32) :
    (value <<< position.toUInt32).toNat = value.toNat <<< position.toNat := by
  have bound : value.toNat * 2 ^ position.toNat < 2 ^ 32 := by
    calc value.toNat * 2 ^ position.toNat < 2 ^ size.toNat * 2 ^ position.toNat :=
          Nat.mul_lt_mul_of_pos_right small (Nat.two_pow_pos _)
      _ = 2 ^ (position.toNat + size.toNat) := by rw [Nat.add_comm, Nat.pow_add]
      _ ≤ 2 ^ 32 := Nat.pow_le_pow_right (by decide) inside
  rw [UInt32.toNat_shiftLeft, UInt8.toNat_toUInt32]
  rcases Nat.lt_or_ge position.toNat 32 with below | above
  · rw [Nat.mod_eq_of_lt below, Nat.shiftLeft_eq, Nat.mod_eq_of_lt bound]
  · -- a field without bits
    have none : size.toNat = 0 := by omega
    rw [none] at small
    have zero : value.toNat = 0 := Nat.lt_one_iff.mp small
    rw [zero, Nat.zero_shiftLeft, Nat.zero_shiftLeft, Nat.zero_mod]

/-- An amount `count * step`, which may have wrapped around in its 32 bits. -/
theorem amount_field {size : Nat} (narrow : size ≤ 16) (start : Nat) (count : UInt32) (step : UInt8) :
    (start + (count * step.toUInt32).toNat) % 2 ^ size =
      (start + count.toNat * step.toNat) % 2 ^ size := by
  rw [UInt32.toNat_mul, UInt8.toNat_toUInt32, Nat.add_mod, mod_mod_field (by omega : size ≤ 32),
    ← Nat.add_mod]

/-- A sum of a column and a row, which may have wrapped around in its 32 bits. -/
theorem sum_field {size : Nat} (narrow : size ≤ 16) (start : Nat) (col row : UInt32) (step : Nat) :
    (start + (col + row).toNat * step) % 2 ^ size =
      (start + (col.toNat + row.toNat) * step) % 2 ^ size := by
  have same : (col + row).toNat % 2 ^ size = (col.toNat + row.toNat) % 2 ^ size := by
    rw [UInt32.toNat_add, mod_mod_field (by omega : size ≤ 32)]
  rw [Nat.add_mod, Nat.mul_mod, same, ← Nat.mul_mod, ← Nat.add_mod]

/-- The fields of a colour are the first colour's, moved on by a column, a row and their sum, each modulo
its size. -/
structure MovedFields (mode : VbeModeInfo) (first : UInt32) (step : UInt8) (col row : Nat)
    (color : UInt32) : Prop where
  red : redField mode color = (redField mode first + col * step.toNat) % 2 ^ mode.RedMaskSize.toNat
  green : greenField mode color =
    (greenField mode first + row * step.toNat) % 2 ^ mode.GreenMaskSize.toNat
  blue : blueField mode color =
    (blueField mode first + (col + row) * step.toNat) % 2 ^ mode.BlueMaskSize.toNat

/-- **The fields of a colour in direct mode**, for every column and row, also where the sums wrap around. -/
theorem dirMode_fields {mode : VbeModeInfo} (fields : DirectFields mode) (col row : UInt32)
    (step : UInt8) (first : UInt32) :
    MovedFields mode first step col.toNat row.toNat (dirMode mode col row step first) := by
  have red := fieldPlus_lt fields.redSize fields.redInside first (col * step.toUInt32)
  have green := fieldPlus_lt fields.greenSize fields.greenInside first (row * step.toUInt32)
  have blue := fieldPlus_lt fields.blueSize fields.blueInside first ((col + row) * step.toUInt32)
  have parts : (dirMode mode col row step first).toNat =
      (fieldPlus mode.RedMaskSize mode.RedFieldPosition first (col * step.toUInt32)).toNat <<<
          mode.RedFieldPosition.toNat |||
        (fieldPlus mode.GreenMaskSize mode.GreenFieldPosition first (row * step.toUInt32)).toNat <<<
          mode.GreenFieldPosition.toNat |||
        (fieldPlus mode.BlueMaskSize mode.BlueFieldPosition first
          ((col + row) * step.toUInt32)).toNat <<< mode.BlueFieldPosition.toNat := by
    rw [dirMode, UInt32.toNat_or, UInt32.toNat_or, shiftLeft_toNat red fields.redInside,
      shiftLeft_toNat green fields.greenInside, shiftLeft_toNat blue fields.blueInside]
  refine ⟨?_, ?_, ?_⟩
  · rw [redField, parts, field_or, field_or, field_shifted red, field_apart green fields.redGreen,
      field_apart blue fields.redBlue, Nat.or_zero, Nat.or_zero,
      fieldPlus_toNat fields.redSize fields.redInside, amount_field fields.redSize]
    rfl
  · rw [greenField, parts, field_or, field_or, field_shifted green,
      field_apart red fields.redGreen.symm, field_apart blue fields.greenBlue, Nat.zero_or, Nat.or_zero,
      fieldPlus_toNat fields.greenSize fields.greenInside, amount_field fields.greenSize]
    rfl
  · rw [blueField, parts, field_or, field_or, field_shifted blue,
      field_apart red fields.redBlue.symm, field_apart green fields.greenBlue.symm, Nat.zero_or,
      Nat.zero_or, fieldPlus_toNat fields.blueSize fields.blueInside, amount_field fields.blueSize,
      sum_field fields.blueSize]
    rfl

/-! ### The rectangles -/

section Rectangles

variable (mode : VbeModeInfo) (noRectangles : UInt8) (first : UInt32) (step : UInt8)

/-- The width and the height of a rectangle. -/
def cellWidth : Nat := mode.XResolution.toNat / noRectangles.toNat
def cellHeight : Nat := mode.YResolution.toNat / noRectangles.toNat

/-- The corner of the rectangle in row `i` and column `j`. -/
def cornerX (j : Nat) : UInt16 := UInt16.ofNat (j * cellWidth mode noRectangles)
def cornerY (i : Nat) : UInt16 := UInt16.ofNat (i * cellHeight mode noRectangles)

/-- The cells of the pattern: a row, a column, and a place in their rectangle. -/
def patternCells : List (Nat × Nat × Nat) :=
  (List.range noRectangles.toNat).flatMap fun i => (List.range noRectangles.toNat).flatMap fun j =>
    (List.range (cellWidth mode noRectangles * cellHeight mode noRectangles)).map fun place =>
      (i, j, place)

/-- The pixel of a cell, and the write to it. -/
def patternPixel (cell : Nat × Nat × Nat) : UInt16 × UInt16 :=
  cellPixel (cornerX mode noRectangles cell.2.1) (cornerY mode noRectangles cell.1)
    (cellWidth mode noRectangles) cell.2.2
def writePattern (cell : Nat × Nat × Nat) : Memory → Memory :=
  memcpy (pixelIndex mode (patternPixel mode noRectangles cell).1 (patternPixel mode noRectangles cell).2)
    (colorByte (patternColor mode noRectangles first step cell.1 cell.2.1)) (bytesPerPixel mode)

variable {mode noRectangles first step}

theorem cellWidth_mul_le : noRectangles.toNat * cellWidth mode noRectangles ≤ mode.XResolution.toNat :=
  Nat.mul_div_le _ _

theorem cellHeight_mul_le :
    noRectangles.toNat * cellHeight mode noRectangles ≤ mode.YResolution.toNat :=
  Nat.mul_div_le _ _

theorem mem_patternCells {i j place : Nat} :
    (i, j, place) ∈ patternCells mode noRectangles ↔
      i < noRectangles.toNat ∧ j < noRectangles.toNat ∧
        place < cellWidth mode noRectangles * cellHeight mode noRectangles := by
  simp [patternCells]

/-- The corner of a rectangle is exact, and the rectangle ends on the screen. -/
theorem cornerX_toNat {j : Nat} (column : j < noRectangles.toNat) :
    (cornerX mode noRectangles j).toNat = j * cellWidth mode noRectangles ∧
      j * cellWidth mode noRectangles + cellWidth mode noRectangles ≤ mode.XResolution.toNat := by
  have small := mode.XResolution.toNat_lt
  have ends := (offset_le (cellWidth mode noRectangles) column).trans cellWidth_mul_le
  exact ⟨UInt16.toNat_ofNat_of_lt' (Nat.lt_of_le_of_lt (by omega) small), ends⟩

theorem cornerY_toNat {i : Nat} (row : i < noRectangles.toNat) :
    (cornerY mode noRectangles i).toNat = i * cellHeight mode noRectangles ∧
      i * cellHeight mode noRectangles + cellHeight mode noRectangles ≤ mode.YResolution.toNat := by
  have small := mode.YResolution.toNat_lt
  have ends := (offset_le (cellHeight mode noRectangles) row).trans cellHeight_mul_le
  exact ⟨UInt16.toNat_ofNat_of_lt' (Nat.lt_of_le_of_lt (by omega) small), ends⟩

/-- Every cell of the pattern is on the screen. -/
theorem cellOnScreen_pattern {i j place : Nat} (row : i < noRectangles.toNat)
    (column : j < noRectangles.toNat)
    (below : place < cellWidth mode noRectangles * cellHeight mode noRectangles) :
    CellOnScreen mode (cornerX mode noRectangles j) (cornerY mode noRectangles i)
      (cellWidth mode noRectangles) place := by
  obtain ⟨inColumn, inRow⟩ := cell_lt below
  obtain ⟨x, right⟩ := @cornerX_toNat mode noRectangles j column
  obtain ⟨y, bottom⟩ := @cornerY_toNat mode noRectangles i row
  refine ⟨?_, ?_⟩
  · rw [x]
    omega
  · rw [y]
    omega

/-- The pixel of a cell, as the column and the row of the pattern count it. -/
theorem patternPixel_toNat {i j place : Nat} (member : (i, j, place) ∈ patternCells mode noRectangles) :
    (patternPixel mode noRectangles (i, j, place)).1.toNat =
        index (cellWidth mode noRectangles) (place % cellWidth mode noRectangles) j ∧
      (patternPixel mode noRectangles (i, j, place)).2.toNat =
        index (cellHeight mode noRectangles) (place / cellWidth mode noRectangles) i := by
  obtain ⟨row, column, below⟩ := mem_patternCells.mp member
  obtain ⟨x, y⟩ := (cellOnScreen_pattern row column below).cellPixel_toNat
  rw [(cornerX_toNat column).1, Nat.mul_comm] at x
  rw [(cornerY_toNat row).1, Nat.mul_comm i] at y
  exact ⟨x, y⟩

/-- The rectangle of a cell is the loop of its shape. -/
theorem vgDrawRectangle_pattern (i j : Nat) (color : UInt32) (buf : Memory) :
    vgDrawRectangle mode (cornerX mode noRectangles j) (cornerY mode noRectangles i)
        (UInt16.ofNat (cellWidth mode noRectangles)) (UInt16.ofNat (cellHeight mode noRectangles))
        color buf =
      drawShape mode (cornerX mode noRectangles j) (cornerY mode noRectangles i)
        (cellWidth mode noRectangles) (cellHeight mode noRectangles) (fun _ _ => color) buf := by
  have wide : (UInt16.ofNat (cellWidth mode noRectangles)).toNat = cellWidth mode noRectangles :=
    UInt16.toNat_ofNat_of_lt' (Nat.lt_of_le_of_lt (Nat.div_le_self _ _) mode.XResolution.toNat_lt)
  have tall : (UInt16.ofNat (cellHeight mode noRectangles)).toNat = cellHeight mode noRectangles :=
    UInt16.toNat_ofNat_of_lt' (Nat.lt_of_le_of_lt (Nat.div_le_self _ _) mode.YResolution.toNat_lt)
  rw [vgDrawRectangle_eq, wide, tall]

/-- A rectangle of the pattern is drawn. -/
theorem vgDrawRectangle_passes {i j : Nat} (row : i < noRectangles.toNat)
    (column : j < noRectangles.toNat) (buf : Memory) :
    vgDrawRectangle mode (cornerX mode noRectangles j) (cornerY mode noRectangles i)
        (UInt16.ofNat (cellWidth mode noRectangles)) (UInt16.ofNat (cellHeight mode noRectangles))
        (patternColor mode noRectangles first step i j) buf =
      (0, writeAll (writePattern mode noRectangles first step)
        ((List.range (cellWidth mode noRectangles * cellHeight mode noRectangles)).map fun place =>
          (i, j, place)) buf) := by
  rw [vgDrawRectangle_pattern, writeAll_map]
  exact untilFailure_of_accepts
    (fun place member => cellOnScreen_pattern row column (List.mem_range.mp member)) buf

/-- **The pattern draws all its cells.** -/
theorem videoTestPattern_eq (buf : Memory) :
    videoTestPattern mode noRectangles first step buf =
      (0, writeAll (writePattern mode noRectangles first step) (patternCells mode noRectangles)
        buf) := by
  rw [patternCells, ← writeAll_nested]
  refine untilFailure_of_passes (fun i row buf => ?_) buf
  rw [← writeAll_nested]
  refine untilFailure_of_passes (fun j column buf => ?_) buf
  exact vgDrawRectangle_passes (List.mem_range.mp row) (List.mem_range.mp column) buf

/-! ### The pixels of the pattern -/

/-- The pixels of the pattern have the colours of their cells, and all others keep theirs. -/
def PatternDrawn (mode : VbeModeInfo) (noRectangles : UInt8) (first : UInt32) (step : UInt8)
    (before after : Memory) : Prop :=
  ∀ px py, Accepts mode px py →
    pixelBytes mode after px py =
      if px.toNat < noRectangles.toNat * cellWidth mode noRectangles ∧
          py.toNat < noRectangles.toNat * cellHeight mode noRectangles then
        colorBytes mode (patternColor mode noRectangles first step
          (py.toNat / cellHeight mode noRectangles) (px.toNat / cellWidth mode noRectangles))
      else pixelBytes mode before px py

/-- A pixel of the pattern is the pixel of a cell. -/
theorem exists_patternCell {px py : UInt16}
    (right : px.toNat < noRectangles.toNat * cellWidth mode noRectangles)
    (bottom : py.toNat < noRectangles.toNat * cellHeight mode noRectangles) :
    ∃ place, (py.toNat / cellHeight mode noRectangles, px.toNat / cellWidth mode noRectangles, place) ∈
        patternCells mode noRectangles ∧
      patternPixel mode noRectangles
        (py.toNat / cellHeight mode noRectangles, px.toNat / cellWidth mode noRectangles, place) =
        (px, py) := by
  rw [Nat.mul_comm] at right bottom
  obtain ⟨inColumn, column⟩ := cell_lt right
  obtain ⟨inRow, row⟩ := cell_lt bottom
  have member := mem_patternCells.mpr ⟨row, column, index_lt inColumn inRow⟩
  refine ⟨_, member, ?_⟩
  obtain ⟨x, y⟩ := patternPixel_toNat member
  rw [index_mod inColumn, index_mod_div] at x
  rw [index_div inColumn, index_mod_div] at y
  exact Prod.ext (UInt16.toNat_inj.mp x) (UInt16.toNat_inj.mp y)

/-- The cell of a pixel of the pattern. -/
theorem patternCell_unique {i j place : Nat} (member : (i, j, place) ∈ patternCells mode noRectangles)
    {px py : UInt16} (same : patternPixel mode noRectangles (i, j, place) = (px, py)) :
    i = py.toNat / cellHeight mode noRectangles ∧ j = px.toNat / cellWidth mode noRectangles ∧
      px.toNat < noRectangles.toNat * cellWidth mode noRectangles ∧
      py.toNat < noRectangles.toNat * cellHeight mode noRectangles := by
  obtain ⟨x, y⟩ := patternPixel_toNat member
  obtain ⟨row, column, below⟩ := mem_patternCells.mp member
  obtain ⟨inColumn, inRow⟩ := cell_lt below
  rw [same] at x y
  refine ⟨?_, ?_, ?_, ?_⟩
  · rw [y, index_div inRow]
  · rw [x, index_div inColumn]
  · rw [x, Nat.mul_comm]
    exact index_lt inColumn column
  · rw [y, Nat.mul_comm]
    exact index_lt inRow row

/-- **A reached pixel behind the pattern**, when the pixels of the pattern are reached. -/
theorem pixelBytes_pattern
    (within : ∀ cell ∈ patternCells mode noRectangles, Reached mode
      (patternPixel mode noRectangles cell).1 (patternPixel mode noRectangles cell).2)
    (buf : Memory) {px py : UInt16} (reached : Reached mode px py) :
    pixelBytes mode (videoTestPattern mode noRectangles first step buf).2 px py =
      if px.toNat < noRectangles.toNat * cellWidth mode noRectangles ∧
          py.toNat < noRectangles.toNat * cellHeight mode noRectangles then
        colorBytes mode (patternColor mode noRectangles first step
          (py.toNat / cellHeight mode noRectangles) (px.toNat / cellWidth mode noRectangles))
      else pixelBytes mode buf px py := by
  have stores := stores_memcpy mode (patternPixel mode noRectangles)
    fun cell => patternColor mode noRectangles first step cell.1 cell.2.1
  rw [videoTestPattern_eq]
  by_cases inside : px.toNat < noRectangles.toNat * cellWidth mode noRectangles ∧
      py.toNat < noRectangles.toNat * cellHeight mode noRectangles
  · obtain ⟨place, member, same⟩ := exists_patternCell inside.1 inside.2
    rw [if_pos inside]
    have painted := read_painted stores within member (fun other otherMember equal => ?_) buf
    · rw [same] at painted
      exact painted
    · -- two cells with one pixel have one row and one column
      obtain ⟨i, j, otherPlace⟩ := other
      obtain ⟨row, column, -, -⟩ := patternCell_unique otherMember (equal.trans same)
      rw [row, column]
  · rw [if_neg inside]
    refine read_untouched stores (px, py) within reached (fun cell member same => ?_) buf
    obtain ⟨i, j, place⟩ := cell
    obtain ⟨-, -, right, bottom⟩ := patternCell_unique member same
    exact inside ⟨right, bottom⟩

/-- The pixels of the pattern are on the screen. -/
theorem patternPixel_accepts {cell : Nat × Nat × Nat} (member : cell ∈ patternCells mode noRectangles) :
    Accepts mode (patternPixel mode noRectangles cell).1 (patternPixel mode noRectangles cell).2 := by
  obtain ⟨i, j, place⟩ := cell
  obtain ⟨row, column, below⟩ := mem_patternCells.mp member
  exact (cellOnScreen_pattern row column below).accepts

/-- **The pattern is the documented one**: every rectangle is drawn, and in a frame of up to 2^32 bytes
each pixel has the colour of its cell, whose fields are those of the direct-colour mode. -/
theorem pattern_drawn (mode : VbeModeInfo) (noRectangles : UInt8)
    (first : UInt32) (step : UInt8) (buf : Memory) :
    (∀ i < noRectangles.toNat, ∀ j < noRectangles.toNat, ∀ buf,
      (vgDrawRectangle mode (cornerX mode noRectangles j) (cornerY mode noRectangles i)
        (UInt16.ofNat (cellWidth mode noRectangles)) (UInt16.ofNat (cellHeight mode noRectangles))
        (patternColor mode noRectangles first step i j) buf).1 = 0) ∧
    (videoTestPattern mode noRectangles first step buf).1 = 0 ∧
    (frameSize mode ≤ 2 ^ 32 → PatternDrawn mode noRectangles first step buf
      (videoTestPattern mode noRectangles first step buf).2) ∧
    (DirectFields mode →
      (∀ col row, MovedFields mode first step col.toNat row.toNat (dirMode mode col row step first)) ∧
      (mode.MemoryModel = 0x06 → ∀ i < noRectangles.toNat, ∀ j < noRectangles.toNat,
        MovedFields mode first step j i (patternColor mode noRectangles first step i j))) := by
  refine ⟨fun i row j column buf => ?_, ?_, fun reach px py accepted => ?_,
    fun fields => ⟨fun col row => dirMode_fields fields col row step first,
      fun direct i row j column => ?_⟩⟩
  · rw [vgDrawRectangle_passes row column]
  · rw [videoTestPattern_eq]
  · exact pixelBytes_pattern (fun cell member => (patternPixel_accepts member).reached reach) buf
      (accepted.reached reach)
  · have small := noRectangles.toNat_lt
    have jSmall : (j.toUInt32).toNat = j := UInt32.toNat_ofNat_of_lt'
      (Nat.lt_trans (Nat.lt_trans column small) (by decide))
    have iSmall : (i.toUInt32).toNat = i := UInt32.toNat_ofNat_of_lt'
      (Nat.lt_trans (Nat.lt_trans row small) (by decide))
    have moved := dirMode_fields fields j.toUInt32 i.toUInt32 step first
    rw [jSmall, iSmall] at moved
    rw [patternColor, if_pos direct]
    exact moved

end Rectangles

/-- The fields of the small mode are its three bytes. -/
theorem directFields_smallMode : DirectFields smallMode where
  redSize := by decide
  redInside := by decide
  greenSize := by decide
  greenInside := by decide
  blueSize := by decide
  blueInside := by decide
  redGreen := apart_of_ordered (by decide)
  redBlue := apart_of_ordered (by decide)
  greenBlue := apart_of_ordered (by decide)

/-- One rectangle covers the small mode, in the first colour. -/
theorem pattern_drawn_smallMode :
    let after := (videoTestPattern smallMode 1 0x010203 5 fun _ => 0).2
    pixelBytes smallMode after 2 1 = [3, 2, 1] ∧
    MovedFields smallMode 0x010203 5 0 0 (patternColor smallMode 1 0x010203 5 0 0) := by
  have drawn := (pattern_drawn smallMode 1 0x010203 5 fun _ => 0).2.2
  have fields := (drawn.2 directFields_smallMode).2 (by decide)
  exact ⟨drawn.1 (by decide) 2 1 (by decide), fields 0 (by decide) 0 (by decide)⟩

/-! ### Larger frames -/

/-- The pixels of a pattern of 255 rows in the larger mode are reached. -/
theorem reached_wrapMode {cell : Nat × Nat × Nat} (member : cell ∈ patternCells wrapMode 255) :
    Reached wrapMode (patternPixel wrapMode 255 cell).1 (patternPixel wrapMode 255 cell).2 := by
  refine ⟨patternPixel_accepts member, ?_⟩
  obtain ⟨i, j, place⟩ := cell
  obtain ⟨-, -, right, bottom⟩ := @patternCell_unique wrapMode 255 i j place member
    (patternPixel wrapMode 255 (i, j, place)).1 (patternPixel wrapMode 255 (i, j, place)).2 rfl
  have width : (255 : UInt8).toNat * cellWidth wrapMode 255 = 32640 := by decide
  have height : (255 : UInt8).toNat * cellHeight wrapMode 255 = 32640 := by decide
  have resolution : wrapMode.XResolution.toNat = 32768 := by decide
  have bytes : bytesPerPixel wrapMode = 4 := by decide
  rw [width] at right
  rw [height] at bottom
  rw [index, resolution, bytes]
  omega

/-- In that mode the first pixel of the last row, which is behind the pattern, shares its bytes with the
first pixel of the pattern. -/
theorem not_pattern_wrapMode :
    (videoTestPattern wrapMode 255 0xFF 0 fun _ => 0).1 = 0 ∧
    ¬ PatternDrawn wrapMode 255 0xFF 0 (fun _ => 0) (videoTestPattern wrapMode 255 0xFF 0 fun _ => 0).2 := by
  refine ⟨by rw [videoTestPattern_eq], fun drawn => ?_⟩
  have behind := drawn 0 32768 (by decide)
  rw [if_neg (by decide)] at behind
  have first := @pixelBytes_pattern wrapMode 255 0xFF 0 (fun _ member => reached_wrapMode member)
    (fun _ => 0) 0 0 ⟨by decide, by decide⟩
  rw [if_pos (by decide)] at first
  have same : pixelBytes wrapMode (videoTestPattern wrapMode 255 0xFF 0 fun _ => 0).2 0 32768 =
      pixelBytes wrapMode (videoTestPattern wrapMode 255 0xFF 0 fun _ => 0).2 0 0 := by
    have index : pixelIndex wrapMode 0 32768 = pixelIndex wrapMode 0 0 := by decide
    rw [pixelBytes, index]
    rfl
  rw [same, first] at behind
  revert behind
  decide

end BackBuffer

end SpaceInvaders
