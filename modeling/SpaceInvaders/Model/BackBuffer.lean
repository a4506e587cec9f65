/-
**The pixels of `graphic.c`**: the functions that write the back buffer. `lab5` has the same functions on
its mapped video memory.

A buffer is its bytes by address. `vram_size` and the index of a pixel are computed in 32 bits and wrap
around there; coordinates are `uint16_t`, and `x + i` is truncated at each call. A colour has four bytes:
a mode of more than 32 bits a pixel would copy bytes from behind it, which are zeros here. The results of
`memcpy` and `norm_color` that the code tests never report an error.
-/

import SpaceInvaders.Lib.Loops
import SpaceInvaders.Lib.Painting
import SpaceInvaders.Model.Graphics

namespace SpaceInvaders

/-- The fields of `vbe_mode_info_t` that the drawing functions read. -/
structure VbeModeInfo extends ModeInfo where
  BitsPerPixel : UInt8
  MemoryModel : UInt8
  RedMaskSize : UInt8
  RedFieldPosition : UInt8
  GreenMaskSize : UInt8
  GreenFieldPosition : UInt8
  BlueMaskSize : UInt8
  BlueFieldPosition : UInt8

/-- The bytes of a buffer, by their address. -/
abbrev Memory := Nat → UInt8

namespace BackBuffer

/-! ### Sizes -/

/-- The variable `bytes_per_pixel`. -/
def bytesPerPixel (mode : VbeModeInfo) : Nat := (mode.BitsPerPixel.toNat + 7) / 8

/-- The size of the frame in bytes. -/
def frameSize (mode : VbeModeInfo) : Nat :=
  mode.XResolution.toNat * mode.YResolution.toNat * bytesPerPixel mode

/-- The variable `vram_size` behind `set_frame_buffer`. -/
def vramSize (mode : VbeModeInfo) : Nat := frameSize mode % 2 ^ 32

/-- The variable `idx` of `vg_draw_pixel`. -/
def pixelIndex (mode : VbeModeInfo) (x y : UInt16) : Nat :=
  (mode.XResolution.toNat * y.toNat + x.toNat) * bytesPerPixel mode % 2 ^ 32

/-! ### Colours -/

/-- The bytes of a colour in memory. -/
def colorByte (color : UInt32) (k : Nat) : UInt8 := (color.toNat >>> (8 * k)).toUInt8

/-- The function `norm_color`. -/
def normColor (mode : VbeModeInfo) (color : UInt32) : UInt32 :=
  if mode.BitsPerPixel = 32 then color
  else color &&& (((1 : UInt32) <<< mode.BitsPerPixel.toUInt32) - 1)

/-- A field of a colour in `dir_mode`, moved on by an amount. -/
def fieldPlus (size position : UInt8) (first amount : UInt32) : UInt32 :=
  ((((1 : UInt32) <<< size.toUInt32) - 1 &&& (first >>> position.toUInt32)) + amount) %
    ((1 : UInt32) <<< size.toUInt32)

/-- The function `dir_mode`. -/
def dirMode (mode : VbeModeInfo) (col row : UInt32) (step : UInt8) (first : UInt32) : UInt32 :=
  let r := fieldPlus mode.RedMaskSize mode.RedFieldPosition first (col * step.toUInt32)
  let g := fieldPlus mode.GreenMaskSize mode.GreenFieldPosition first (row * step.toUInt32)
  let b := fieldPlus mode.BlueMaskSize mode.BlueFieldPosition first ((col + row) * step.toUInt32)
  (r <<< mode.RedFieldPosition.toUInt32) ||| (g <<< mode.GreenFieldPosition.toUInt32) |||
    (b <<< mode.BlueFieldPosition.toUInt32)

/-- The function `idx_mode`. -/
def idxMode (mode : VbeModeInfo) (col row : UInt32) (step : UInt8) (first : UInt32)
    (noRectangles : UInt8) : UInt32 :=
  (first + (row * noRectangles.toUInt32 + col) * step.toUInt32) %
    ((1 : UInt32) <<< mode.BitsPerPixel.toUInt32)

/-! ### Drawing -/

/-- A `memcpy` of `count` bytes to an address. -/
def memcpy (start : Nat) (source : Nat → UInt8) (count : Nat) (buf : Memory) : Memory := fun address =>
  if start ≤ address ∧ address < start + count then source (address - start) else buf address

/-- The function `vg_draw_pixel`. -/
def vgDrawPixel (mode : VbeModeInfo) (x y : UInt16) (color : UInt32) (buf : Memory) : Int × Memory :=
  if x ≥ mode.XResolution ∨ y ≥ mode.YResolution ∨ x < 0 ∨ y < 0 then (1, buf)
  else (0, memcpy (pixelIndex mode x y) (colorByte color) (bytesPerPixel mode) buf)

/-- The coordinate of a call: `start + i`, computed in 32 bits and passed as a `uint16_t`. -/
def coordinate (start : UInt16) (i : Nat) : UInt16 := UInt16.ofNat (start.toNat + i)

/-- The function `vg_draw_hline`. -/
def vgDrawHline (mode : VbeModeInfo) (x y : UInt16) (len : UInt16) (color : UInt32) :
    Memory → Int × Memory :=
  Painting.untilFailure (fun i => vgDrawPixel mode (coordinate x i) y color) (List.range len.toNat)

/-- The function `vg_draw_rectangle`. -/
def vgDrawRectangle (mode : VbeModeInfo) (x y width height : UInt16) (color : UInt32) :
    Memory → Int × Memory :=
  Painting.untilFailure (fun i => vgDrawHline mode x (coordinate y i) width color)
    (List.range height.toNat)

/-- An image as `xpm_load` returns it: a colour for each of its pixels, row by row. -/
structure XpmImage where
  width : UInt16
  height : UInt16
  colors : List UInt32
  sized : colors.length = width.toNat * height.toNat

/-- The function `print_xpm`. -/
def printXpm (mode : VbeModeInfo) (image : XpmImage) (x y : UInt16) : Memory → Int × Memory :=
  Painting.untilFailure
    (fun h => Painting.untilFailure
      (fun w => vgDrawPixel mode (coordinate x w) (coordinate y h)
        (image.colors.getD (h * image.width.toNat + w) 0))
      (List.range image.width.toNat))
    (List.range image.height.toNat)

/-! ### Clearing -/

/-- The loop of `clear_back_buf`: its counter, the buffer, and where it has written. -/
structure ClearBackBuf where
  i : Nat
  buf : Memory
  visited : List Nat

/-- One round of the loop of `clear_back_buf`. -/
def clearBackBufRound (mode : VbeModeInfo) (color : UInt32) (state : ClearBackBuf) :
    ClearBackBuf ⊕ ClearBackBuf :=
  if state.i < vramSize mode then
    .inl ⟨(state.i + bytesPerPixel mode) % 2 ^ 32,
      memcpy state.i (colorByte (normColor mode color)) (bytesPerPixel mode) state.buf,
      state.visited ++ [state.i]⟩
  else .inr state

/-- Where `clear_area` is: before a row, or before a pixel. -/
inductive ClearArea
  | row (i : UInt16) (buf : Memory)
  | pixel (i j : UInt16) (buf : Memory)

/-- One step of the nested loops of `clear_area`. -/
def clearAreaRound (mode : VbeModeInfo) (x y width height : UInt16) (color : UInt32) :
    ClearArea → ClearArea ⊕ (Int × Memory)
  | .row i buf =>
    if i.toNat < y.toNat + height.toNat then .inl (.pixel i x buf) else .inr (0, buf)
  | .pixel i j buf =>
    if j.toNat < x.toNat + width.toNat then
      if (vgDrawPixel mode j i (normColor mode color) buf).1 ≠ 0 then
        .inr (1, (vgDrawPixel mode j i (normColor mode color) buf).2)
      else .inl (.pixel i (j + 1) (vgDrawPixel mode j i (normColor mode color) buf).2)
    else .inl (.row (i + 1) buf)

/-- The function `clear_area` returns this result. -/
def ClearAreaReturns (mode : VbeModeInfo) (x y width height : UInt16) (color : UInt32) (buf : Memory)
    (result : Int × Memory) : Prop :=
  Loops.Returns (clearAreaRound mode x y width height color) (.row y buf) result

/-! ### The test pattern -/

/-- The colour of a cell of the pattern. -/
def patternColor (mode : VbeModeInfo) (noRectangles : UInt8) (first : UInt32) (step : UInt8)
    (i j : Nat) : UInt32 :=
  if mode.MemoryModel = 0x06 then dirMode mode j.toUInt32 i.toUInt32 step first
  else idxMode mode j.toUInt32 i.toUInt32 step first noRectangles

/-- The drawing of `video_test_pattern`, behind the calls that set the mode: a rectangle for each
cell. The code divides by `no_rectangles`; a pattern has at least one. -/
def videoTestPattern (mode : VbeModeInfo) (noRectangles : UInt8) (first : UInt32) (step : UInt8) :
    Memory → Int × Memory :=
  let v := mode.YResolution.toNat / noRectangles.toNat
  let h := mode.XResolution.toNat / noRectangles.toNat
  Painting.untilFailure
    (fun i => Painting.untilFailure
      (fun j => vgDrawRectangle mode (UInt16.ofNat (j * h)) (UInt16.ofNat (i * v)) (UInt16.ofNat h)
        (UInt16.ofNat v) (patternColor mode noRectangles first step i j))
      (List.range noRectangles.toNat))
    (List.range noRectangles.toNat)

end BackBuffer

end SpaceInvaders
