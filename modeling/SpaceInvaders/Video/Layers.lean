/-
**The layer that a call of `print_xpm` paints.**

A call that fails has drawn something all the same: the cells before the first one off the screen. For an
image that only sticks out at the bottom these are its rows above the border; for one that sticks out to
the right they are a part of its first row.

* `drawShape_eq_writes`: the cells that are drawn, in closed form (`drawnCells`);
* `lays_imageLayer`: a call lays its layer over the buffer, whether it fails or not;
* `imageLayer_of_column`: where an image covers that does not stick out to the right.
-/

import SpaceInvaders.Lib.Painter
import SpaceInvaders.Model.Display
import SpaceInvaders.Video.Shapes

namespace SpaceInvaders

namespace BackBuffer

open Painting RowMajor

/-! ### The cells that are drawn -/

/-- The number of the cells before the first one off the screen. -/
def drawnCells (mode : VbeModeInfo) (x y : UInt16) (width height : Nat) : Nat :=
  if height = 0 ∨ mode.XResolution ≤ x ∨ mode.YResolution ≤ y then 0
  else if x.toNat + width ≤ mode.XResolution.toNat then
    width * min height (mode.YResolution.toNat - y.toNat)
  else mode.XResolution.toNat - x.toNat

/-- Before `drawnCells` every cell is on the screen, and behind it comes the end or a cell that is not. -/
theorem drawnCells_spec (mode : VbeModeInfo) (x y : UInt16) (width height : Nat) :
    drawnCells mode x y width height ≤ width * height ∧
      (∀ place < drawnCells mode x y width height, CellOnScreen mode x y width place) ∧
      (drawnCells mode x y width height < width * height →
        ¬ CellOnScreen mode x y width (drawnCells mode x y width height)) := by
  unfold drawnCells
  split
  · rename_i outside
    refine ⟨Nat.zero_le _, fun place below => absurd below (Nat.not_lt_zero place), fun more on => ?_⟩
    obtain ⟨column, row⟩ := on
    rw [Nat.zero_mod, Nat.add_zero] at column
    rw [Nat.zero_div, Nat.add_zero] at row
    rcases outside with flat | right | low
    · rw [flat, Nat.mul_zero] at more
      exact Nat.not_lt_zero _ more
    · exact absurd column (Nat.not_lt.mpr (UInt16.le_iff_toNat_le.mp right))
    · exact absurd row (Nat.not_lt.mpr (UInt16.le_iff_toNat_le.mp low))
  rename_i inside
  rw [not_or, not_or, UInt16.not_le, UInt16.not_le, UInt16.lt_iff_toNat_lt,
    UInt16.lt_iff_toNat_lt] at inside
  obtain ⟨tall, left, above⟩ := inside
  split
  · rename_i fits
    refine ⟨Nat.mul_le_mul_left width (Nat.min_le_left _ _), fun place below => ?_, fun more on => ?_⟩
    · obtain ⟨column, row⟩ := cell_lt below
      have rows := Nat.min_le_right height (mode.YResolution.toNat - y.toNat)
      exact ⟨by omega, by omega⟩
    · have wide : 0 < width := Nat.pos_of_mul_pos_right (Nat.lt_of_le_of_lt (Nat.zero_le _) more)
      have clipped : min height (mode.YResolution.toNat - y.toNat) =
          mode.YResolution.toNat - y.toNat := by
        rcases Nat.le_total height (mode.YResolution.toNat - y.toNat) with whole | cut
        · rw [Nat.min_eq_left whole] at more
          exact absurd more (Nat.lt_irrefl _)
        · exact Nat.min_eq_right cut
      have row := on.2
      rw [clipped, Nat.mul_div_cancel_left _ wide] at row
      omega
  · rename_i sticks
    have wide : mode.XResolution.toNat - x.toNat < width := by omega
    refine ⟨?_, fun place below => ?_, fun _ on => ?_⟩
    · exact (Nat.le_of_lt wide).trans (Nat.le_mul_of_pos_right width (Nat.pos_of_ne_zero tall))
    · have narrow : place < width := by omega
      rw [CellOnScreen, Nat.mod_eq_of_lt narrow, Nat.div_eq_of_lt narrow]
      exact ⟨by omega, by omega⟩
    · have column := on.1
      rw [Nat.mod_eq_of_lt wide] at column
      omega

/-- **A shape writes exactly the cells before the first one off the screen.** -/
theorem drawShape_eq_writes (mode : VbeModeInfo) (x y : UInt16) (width height : Nat)
    (colour : Nat → Nat → UInt32) (buf : Memory) :
    (drawShape mode x y width height colour buf).2 =
      writeAll (writeCell mode x y width colour) (List.range (drawnCells mode x y width height))
        buf := by
  obtain ⟨count, within, onScreen, refused, loop⟩ :=
    untilFailure_range_guarded (CellOnScreen mode x y width) (writeCell mode x y width colour)
      (width * height) buf
  obtain ⟨within', onScreen', refused'⟩ := drawnCells_spec mode x y width height
  have same : count = drawnCells mode x y width height := by
    rcases Nat.lt_trichotomy count (drawnCells mode x y width height) with less | same | more
    · exact absurd (onScreen' count less) (refused (Nat.lt_of_lt_of_le less within'))
    · exact same
    · exact absurd (onScreen _ more) (refused' (Nat.lt_of_lt_of_le more within))
  rw [drawShape, loop, same]

/-! ### The layer -/

/-- The pixels of a screen. -/
abbrev Pixel := UInt16 × UInt16

/-- The pixel is on the screen. -/
def OnMode (mode : VbeModeInfo) (pixel : Pixel) : Prop := Accepts mode pixel.1 pixel.2

/-- The bytes that a buffer has at a pixel. -/
def readPixel (mode : VbeModeInfo) (buf : Memory) (pixel : Pixel) : List UInt8 :=
  pixelBytes mode buf pixel.1 pixel.2

/-- What a drawn image covers, and with which colours. -/
def imageLayer (mode : VbeModeInfo) (image : XpmImage) (x y : UInt16) :
    Painter.Layer Pixel (List UInt8) := fun pixel =>
  if AmongCells x y image.width.toNat
      (drawnCells mode x y image.width.toNat image.height.toNat) pixel.1 pixel.2 then
    some (colorBytes mode (image.colour (pixel.1.toNat - x.toNat) (pixel.2.toNat - y.toNat)))
  else none

/-- **`print_xpm` lays a layer over the buffer**, whether it fails or not. -/
theorem lays_imageLayer {mode : VbeModeInfo} (reach : frameSize mode ≤ 2 ^ 32) (image : XpmImage)
    (x y : UInt16) :
    Painter.Lays (readPixel mode) (OnMode mode) (fun buf => (printXpm mode image x y buf).2)
      (imageLayer mode image x y) := by
  intro buf pixel accepted
  obtain ⟨within, onScreen, -⟩ :=
    drawnCells_spec mode x y image.width.toNat image.height.toNat
  have writes := pixelBytes_writeCells reach image.colour within onScreen buf accepted
  show pixelBytes mode (printXpm mode image x y buf).2 pixel.1 pixel.2 = _
  rw [printXpm_eq, drawShape_eq_writes, writes]
  unfold imageLayer
  split
  · rfl
  · rfl

/-- An image that does not stick out to the right covers its rectangle, as far as it is on the screen. -/
theorem imageLayer_of_column {mode : VbeModeInfo} {image : XpmImage} {x y : UInt16}
    (column : x.toNat + image.width.toNat ≤ mode.XResolution.toNat) {pixel : Pixel}
    (onScreen : OnMode mode pixel) :
    imageLayer mode image x y pixel =
      if x.toNat ≤ pixel.1.toNat ∧ pixel.1.toNat < x.toNat + image.width.toNat ∧
          y.toNat ≤ pixel.2.toNat ∧ pixel.2.toNat < y.toNat + image.height.toNat then
        some (colorBytes mode (image.colour (pixel.1.toNat - x.toNat) (pixel.2.toNat - y.toNat)))
      else none := by
  obtain ⟨right, low⟩ := accepts_iff.mp onScreen
  have same : AmongCells x y image.width.toNat
      (drawnCells mode x y image.width.toNat image.height.toNat) pixel.1 pixel.2 ↔
      x.toNat ≤ pixel.1.toNat ∧ pixel.1.toNat < x.toNat + image.width.toNat ∧
        y.toNat ≤ pixel.2.toNat ∧ pixel.2.toNat < y.toNat + image.height.toNat := by
    have all := @amongCells_all x y pixel.1 pixel.2 image.width.toNat
      (min image.height.toNat (mode.YResolution.toNat - y.toNat))
    rw [UInt16.le_iff_toNat_le, UInt16.le_iff_toNat_le] at all
    unfold drawnCells
    split
    · rename_i outside
      refine iff_of_false (fun among => Nat.not_lt_zero _ among.2.2.2) fun inside => ?_
      rcases outside with flat | past | below
      · omega
      · have past := UInt16.le_iff_toNat_le.mp past
        omega
      · have below := UInt16.le_iff_toNat_le.mp below
        omega
    · rw [all]
      omega
  unfold imageLayer
  simp only [same]

/-- A layer covers nothing outside the rectangle of its image. -/
theorem imageLayer_outside {mode : VbeModeInfo} {image : XpmImage} {x y : UInt16} {pixel : Pixel}
    (outside : ¬ (x.toNat ≤ pixel.1.toNat ∧ pixel.1.toNat < x.toNat + image.width.toNat ∧
      y.toNat ≤ pixel.2.toNat ∧ pixel.2.toNat < y.toNat + image.height.toNat)) :
    imageLayer mode image x y pixel = none := by
  refine if_neg fun among => outside ?_
  have within := (drawnCells_spec mode x y image.width.toNat image.height.toNat).1
  obtain ⟨left, right, above, below⟩ := among
  have all := (@amongCells_all x y pixel.1 pixel.2 image.width.toNat image.height.toNat).mp
    ⟨left, right, above, Nat.lt_of_lt_of_le below within⟩
  rw [UInt16.le_iff_toNat_le, UInt16.le_iff_toNat_le] at all
  exact all

end BackBuffer

end SpaceInvaders
