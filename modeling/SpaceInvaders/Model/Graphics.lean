/-
**Drawing, as far as the game reads it**: the return values of `graphic.c`.

No control flow of the game reads the back buffer, so only the status of a drawing call is modelled
here: `vgDrawPixel` fails off the screen, and a shape fails at its first failing pixel. Coordinates
are `uint16_t` parameters: `u16` is the conversion the calls make.

`pixelsOnScreen_iff` is the closed form of the two drawing loops: a shape fits exactly when it is
empty or ends inside the resolution, without a wrap-around of its coordinates.
-/

import Mathlib.Data.UInt

namespace SpaceInvaders

/-- The fields of `vbe_mode_info_t` the game reads. -/
structure ModeInfo where
  XResolution : UInt16
  YResolution : UInt16

/-- The mode `0x14C` the program sets. -/
def mode14C : ModeInfo := ⟨1152, 864⟩

/-- The horizontal resolution as an `int`. -/
def ModeInfo.width (mode : ModeInfo) : Int := mode.XResolution.toNat

/-- The vertical resolution as an `int`. -/
def ModeInfo.height (mode : ModeInfo) : Int := mode.YResolution.toNat

@[simp] theorem mode14C_width : mode14C.width = 1152 := rfl

@[simp] theorem mode14C_height : mode14C.height = 864 := rfl

theorem ModeInfo.width_bounds (mode : ModeInfo) : 0 ≤ mode.width ∧ mode.width < 65536 := by
  have := mode.XResolution.toNat_lt
  unfold ModeInfo.width
  omega

theorem ModeInfo.height_bounds (mode : ModeInfo) : 0 ≤ mode.height ∧ mode.height < 65536 := by
  have := mode.YResolution.toNat_lt
  unfold ModeInfo.height
  omega

/-- The conversion of an `int` to `uint16_t`. -/
def u16 (value : Int) : Int := value % 65536

theorem u16_of_range {value : Int} (low : 0 ≤ value) (high : value < 65536) : u16 value = value :=
  Int.emod_eq_of_lt low high

/-- The status of `vg_draw_pixel`. -/
def vgDrawPixel (mode : ModeInfo) (x y : Int) : Int :=
  if u16 x ≥ mode.width ∨ u16 y ≥ mode.height ∨ u16 x < 0 ∨ u16 y < 0 then 1 else 0

/-- The pixels of the shape at `(x, y)` are all accepted by `vg_draw_pixel`. -/
def PixelsOnScreen (mode : ModeInfo) (x y : Int) (width height : Nat) : Prop :=
  ∀ h < height, ∀ w < width, vgDrawPixel mode (w + u16 x) (h + u16 y) = 0

theorem vgDrawPixel_eq_zero_iff (mode : ModeInfo) (x y : Int) :
    vgDrawPixel mode x y = 0 ↔ u16 x < mode.width ∧ u16 y < mode.height := by
  unfold vgDrawPixel u16
  split <;> omega

/-- One axis of a shape stays below the resolution exactly when its last pixel does. -/
theorem axis_onScreen_iff {resolution start : Int} {extent : Nat} (bound : resolution < 65536)
    (low : 0 ≤ start) (high : start < 65536) (positive : 0 < extent) :
    (∀ i < extent, u16 (i + start) < resolution) ↔ start + extent ≤ resolution := by
  unfold u16
  constructor
  · intro every
    by_contra beyond
    -- the first pixel at or past the resolution is still a 16-bit coordinate
    by_cases inside : start < resolution
    · have := every (resolution - start).toNat (by omega)
      omega
    · have := every 0 positive
      omega
  · intro fits i small
    omega

/-- **Drawing succeeds exactly when the shape fits.** -/
theorem pixelsOnScreen_iff (mode : ModeInfo) (x y : Int) (width height : Nat) :
    PixelsOnScreen mode x y width height ↔
      height = 0 ∨ width = 0 ∨
        (u16 x + width ≤ mode.width ∧ u16 y + height ≤ mode.height) := by
  have xRange : 0 ≤ u16 x ∧ u16 x < 65536 := by unfold u16; omega
  have yRange : 0 ≤ u16 y ∧ u16 y < 65536 := by unfold u16; omega
  rcases Nat.eq_zero_or_pos height with rfl | tall
  · simp [PixelsOnScreen]
  rcases Nat.eq_zero_or_pos width with rfl | wide
  · simp [PixelsOnScreen]
  have split : PixelsOnScreen mode x y width height ↔
      (∀ w < width, u16 (w + u16 x) < mode.width) ∧
        (∀ h < height, u16 (h + u16 y) < mode.height) := by
    simp only [PixelsOnScreen, vgDrawPixel_eq_zero_iff]
    constructor
    · intro every
      exact ⟨fun w small => (every 0 tall w small).1, fun h small => (every h small 0 wide).2⟩
    · rintro ⟨columns, rows⟩ h rowSmall w columnSmall
      exact ⟨columns w columnSmall, rows h rowSmall⟩
  rw [split, axis_onScreen_iff mode.width_bounds.2 xRange.1 xRange.2 wide,
    axis_onScreen_iff mode.height_bounds.2 yRange.1 yRange.2 tall]
  omega

instance (mode : ModeInfo) (x y : Int) (width height : Nat) :
    Decidable (PixelsOnScreen mode x y width height) :=
  decidable_of_iff _ (pixelsOnScreen_iff mode x y width height).symm

/-- The status of `vg_draw_rectangle`. -/
def vgDrawRectangle (mode : ModeInfo) (x y : Int) (width height : Nat) : Int :=
  if PixelsOnScreen mode x y width height then 0 else 1

/-- The size `xpm_load` reports for an image: the first two numbers of its XPM header. -/
structure Xpm where
  width : Nat
  height : Nat

/-- The status of `print_xpm`. -/
def printXpm (mode : ModeInfo) (image : Xpm) (x y : Int) : Int :=
  if PixelsOnScreen mode x y image.width image.height then 0 else 1

/-- A sprite whose box lies on the screen is drawn. -/
theorem printXpm_of_fits (mode : ModeInfo) (image : Xpm) {x y : Int} (left : 0 ≤ x) (top : 0 ≤ y)
    (right : x + image.width ≤ mode.width) (bottom : y + image.height ≤ mode.height) :
    printXpm mode image x y = 0 := by
  have xBound := mode.width_bounds.2
  have yBound := mode.height_bounds.2
  unfold printXpm
  rw [if_pos]
  rw [pixelsOnScreen_iff]
  rcases Nat.eq_zero_or_pos image.height with empty | _
  · exact .inl empty
  rcases Nat.eq_zero_or_pos image.width with empty | _
  · exact .inr (.inl empty)
  rw [u16_of_range left (by omega), u16_of_range top (by omega)]
  exact .inr (.inr ⟨right, bottom⟩)

/-! ### Sprite sizes, from the headers under `xpm/` -/

namespace Xpm

def alien1 : Xpm := ⟨45, 34⟩
def alien2 : Xpm := ⟨45, 34⟩
def alien3 : Xpm := ⟨51, 34⟩
def ship : Xpm := ⟨50, 50⟩
def bullet : Xpm := ⟨8, 30⟩
def enemyBullet : Xpm := ⟨5, 17⟩
def shield : Xpm := ⟨47, 34⟩
def message1 : Xpm := ⟨327, 35⟩
def message4 : Xpm := ⟨107, 35⟩

end Xpm

end SpaceInvaders
