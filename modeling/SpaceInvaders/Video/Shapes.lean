/-
**Drawing a shape.**

`vg_draw_rectangle` and `print_xpm` go through the cells of their shape in row-major order and return at the
first one off the screen. Before it no coordinate has wrapped around: the resolution itself is a 16-bit
number (`coordinate_exact`).

* `vgDrawRectangle_eq`, `printXpm_eq`: both are the loop of a shape over exact coordinates;
* `shapes_drawn`: the shape is drawn exactly when it fits, for every mode, and the pixels that change are
  those of the cells before the first one off the screen, for every frame of up to 2^32 bytes;
* `not_shapeDrawn_wrapMode`: in a larger frame the index of a pixel wraps around to another one.
-/

import SpaceInvaders.Video.Addressing

namespace SpaceInvaders

namespace BackBuffer

open Painting RowMajor

/-! ### The loop of a shape -/

/-- The cell of a shape is on the screen, without a wrap-around of its coordinates. -/
def CellOnScreen (mode : VbeModeInfo) (x y : UInt16) (width place : Nat) : Prop :=
  x.toNat + place % width < mode.XResolution.toNat ∧ y.toNat + place / width < mode.YResolution.toNat

instance (mode : VbeModeInfo) (x y : UInt16) (width : Nat) :
    DecidablePred (CellOnScreen mode x y width) :=
  fun _ => inferInstanceAs (Decidable (_ ∧ _))

/-- The pixel of a cell of a shape. -/
def cellPixel (x y : UInt16) (width place : Nat) : UInt16 × UInt16 :=
  (coordinate x (place % width), coordinate y (place / width))

/-- The write of a cell of a shape. -/
def writeCell (mode : VbeModeInfo) (x y : UInt16) (width : Nat) (colour : Nat → Nat → UInt32)
    (place : Nat) : Memory → Memory :=
  memcpy (pixelIndex mode (cellPixel x y width place).1 (cellPixel x y width place).2)
    (colorByte (colour (place % width) (place / width))) (bytesPerPixel mode)

/-- The loop of a shape over its cells, in row-major order. -/
def drawShape (mode : VbeModeInfo) (x y : UInt16) (width height : Nat) (colour : Nat → Nat → UInt32) :
    Memory → Int × Memory :=
  untilFailure (guarded (CellOnScreen mode x y width) (writeCell mode x y width colour))
    (List.range (width * height))

theorem coordinate_toNat {start : UInt16} {i : Nat} (small : start.toNat + i < 65536) :
    (coordinate start i).toNat = start.toNat + i :=
  UInt16.toNat_ofNat_of_lt' small

/-- Up to the first cell off the screen no coordinate wraps around. -/
theorem coordinate_exact {mode : VbeModeInfo} {x y : UInt16} {width place : Nat} (wide : 0 < width)
    (before : ∀ earlier < place, CellOnScreen mode x y width earlier) :
    x.toNat + place % width < 65536 ∧ y.toNat + place / width < 65536 := by
  have xSmall := x.toNat_lt
  have ySmall := y.toNat_lt
  have columns := mode.XResolution.toNat_lt
  have rows := mode.YResolution.toNat_lt
  have parts := Nat.div_add_mod place width
  have remainder := Nat.mod_lt place wide
  constructor
  · -- the cell to the left is on the screen
    rcases Nat.eq_zero_or_pos (place % width) with first | later
    · omega
    · have left : place % width - 1 < width := by omega
      have cell := (before (index width (place % width - 1) (place / width)) (by unfold index; omega)).1
      rw [index_mod left] at cell
      omega
  · -- the first cell of the row above is on the screen
    rcases Nat.eq_zero_or_pos (place / width) with first | later
    · omega
    · have above : width * (place / width - 1) + width = width * (place / width) := by
        rw [← Nat.mul_succ]
        congr 1
        omega
      have cell := (before (index width 0 (place / width - 1)) (by unfold index; omega)).2
      rw [index_div wide] at cell
      omega

/-- A cell on the screen is a pixel on the screen. -/
theorem CellOnScreen.accepts {mode : VbeModeInfo} {x y : UInt16} {width place : Nat}
    (onScreen : CellOnScreen mode x y width place) :
    Accepts mode (cellPixel x y width place).1 (cellPixel x y width place).2 := by
  have columns := mode.XResolution.toNat_lt
  have rows := mode.YResolution.toNat_lt
  obtain ⟨column, row⟩ := onScreen
  refine accepts_iff.mpr ⟨?_, ?_⟩
  · show (coordinate x (place % width)).toNat < _
    rwa [coordinate_toNat (by omega)]
  · show (coordinate y (place / width)).toNat < _
    rwa [coordinate_toNat (by omega)]

/-- Up to the first cell off the screen, the call for a cell writes the cell or fails. -/
theorem vgDrawPixel_cell {mode : VbeModeInfo} {x y : UInt16} {width place : Nat} (wide : 0 < width)
    (before : ∀ earlier < place, CellOnScreen mode x y width earlier)
    (colour : Nat → Nat → UInt32) (buf : Memory) :
    vgDrawPixel mode (coordinate x (place % width)) (coordinate y (place / width))
        (colour (place % width) (place / width)) buf =
      guarded (CellOnScreen mode x y width) (writeCell mode x y width colour) place buf := by
  obtain ⟨column, row⟩ := coordinate_exact wide before
  have same : Accepts mode (coordinate x (place % width)) (coordinate y (place / width)) ↔
      CellOnScreen mode x y width place := by
    rw [accepts_iff, coordinate_toNat column, coordinate_toNat row]
    rfl
  rw [vgDrawPixel_eq, guarded]
  by_cases onScreen : CellOnScreen mode x y width place
  · rw [if_pos onScreen, if_pos (same.mpr onScreen)]
    rfl
  · rw [if_neg onScreen, if_neg (fun accepted => onScreen (same.mp accepted))]

/-- **The calls of a shape's loop draw the shape over exact coordinates.** -/
theorem untilFailure_vgDrawPixel (mode : VbeModeInfo) (x y : UInt16) (width height : Nat)
    (colour : Nat → Nat → UInt32) (buf : Memory) :
    untilFailure (fun h => untilFailure
        (fun w => vgDrawPixel mode (coordinate x w) (coordinate y h) (colour w h)) (List.range width))
      (List.range height) buf = drawShape mode x y width height colour buf := by
  have cells : ∀ h, untilFailure
      (fun w => vgDrawPixel mode (coordinate x w) (coordinate y h) (colour w h)) (List.range width) =
      untilFailure (fun cell : Nat × Nat =>
          vgDrawPixel mode (coordinate x cell.1) (coordinate y cell.2) (colour cell.1 cell.2))
        ((List.range width).map fun w => (w, h)) := by
    intro h
    funext buf
    exact (untilFailure_map (fun cell : Nat × Nat => vgDrawPixel mode (coordinate x cell.1)
      (coordinate y cell.2) (colour cell.1 cell.2)) (fun w => (w, h)) (List.range width) buf).symm
  simp only [cells]
  rw [untilFailure_nested, rows_range width height (fun w h => (w, h)), untilFailure_map]
  refine untilFailure_range_congr (fun place below before => ?_) buf
  have wide : 0 < width := Nat.pos_of_mul_pos_right (Nat.lt_of_le_of_lt (Nat.zero_le _) below)
  funext buf
  exact vgDrawPixel_cell wide before colour buf

theorem vgDrawRectangle_eq (mode : VbeModeInfo) (x y width height : UInt16) (color : UInt32)
    (buf : Memory) :
    vgDrawRectangle mode x y width height color buf =
      drawShape mode x y width.toNat height.toNat (fun _ _ => color) buf :=
  untilFailure_vgDrawPixel mode x y width.toNat height.toNat (fun _ _ => color) buf

/-- The colour of an image at column `w` of row `h`. -/
def XpmImage.colour (image : XpmImage) (w h : Nat) : UInt32 :=
  image.colors.getD (h * image.width.toNat + w) 0

theorem printXpm_eq (mode : VbeModeInfo) (image : XpmImage) (x y : UInt16) (buf : Memory) :
    printXpm mode image x y buf =
      drawShape mode x y image.width.toNat image.height.toNat image.colour buf :=
  untilFailure_vgDrawPixel mode x y image.width.toNat image.height.toNat image.colour buf

/-! ### When it fits -/

/-- The shape is empty or ends on the screen. -/
def Fits (mode : VbeModeInfo) (x y : UInt16) (width height : Nat) : Prop :=
  width = 0 ∨ height = 0 ∨
    (x.toNat + width ≤ mode.XResolution.toNat ∧ y.toNat + height ≤ mode.YResolution.toNat)

/-- **A shape is drawn exactly when it fits.** -/
theorem drawShape_eq_zero_iff (mode : VbeModeInfo) (x y : UInt16) (width height : Nat)
    (colour : Nat → Nat → UInt32) (buf : Memory) :
    (drawShape mode x y width height colour buf).1 = 0 ↔ Fits mode x y width height := by
  rw [drawShape, untilFailure_eq_zero_iff, Fits]
  constructor
  · intro every
    rcases Nat.eq_zero_or_pos width with empty | wide
    · exact .inl empty
    rcases Nat.eq_zero_or_pos height with empty | tall
    · exact .inr (.inl empty)
    -- the last cell is on the screen
    have column : width - 1 < width := by omega
    have row : height - 1 < height := by omega
    obtain ⟨right, bottom⟩ := every (index width (width - 1) (height - 1))
      (List.mem_range.mpr (index_lt column row))
    rw [index_mod column] at right
    rw [index_div column] at bottom
    exact .inr (.inr ⟨by omega, by omega⟩)
  · intro fits place member
    obtain ⟨column, row⟩ := cell_lt (List.mem_range.mp member)
    rcases fits with empty | empty | ⟨right, bottom⟩
    · exact absurd column (by rw [empty]; exact Nat.not_lt_zero _)
    · exact absurd row (by rw [empty]; exact Nat.not_lt_zero _)
    · exact ⟨by omega, by omega⟩

theorem drawShape_status (mode : VbeModeInfo) (x y : UInt16) (width height : Nat)
    (colour : Nat → Nat → UInt32) (buf : Memory) :
    (drawShape mode x y width height colour buf).1 = 0 ∨
      (drawShape mode x y width height colour buf).1 = 1 :=
  untilFailure_status _ _ _

/-! ### The pixels of the buffer -/

/-- The bytes of a pixel. -/
def pixelBytes (mode : VbeModeInfo) (buf : Memory) (x y : UInt16) : List UInt8 :=
  (List.range (bytesPerPixel mode)).map fun k => buf (pixelIndex mode x y + k)

/-- The bytes of a colour, as many as a pixel has. -/
def colorBytes (mode : VbeModeInfo) (color : UInt32) : List UInt8 :=
  (List.range (bytesPerPixel mode)).map (colorByte color)

/-- A written pixel has its colour, and the other reached ones keep theirs. -/
theorem Reached.pixelBytes_memcpy {mode : VbeModeInfo} {x y x' y' : UInt16}
    (reached : Reached mode x y) (reached' : Reached mode x' y') (color : UInt32) (buf : Memory) :
    pixelBytes mode (memcpy (pixelIndex mode x y) (colorByte color) (bytesPerPixel mode) buf) x' y' =
      if (x', y') = (x, y) then colorBytes mode color else pixelBytes mode buf x' y' := by
  by_cases same : (x', y') = (x, y)
  · obtain ⟨rfl, rfl⟩ := Prod.mk.inj same
    rw [if_pos rfl]
    refine List.map_congr_left fun k member => ?_
    have small := List.mem_range.mp member
    rw [memcpy, if_pos (by omega), Nat.add_sub_cancel_left]
  · rw [if_neg same]
    refine List.map_congr_left fun k member => ?_
    have small := List.mem_range.mp member
    have inside : InPixel mode x' y' (pixelIndex mode x' y' + k) := ⟨by omega, by omega⟩
    exact if_neg (reached'.disjoint reached same inside)

/-- The writes of cells store their colours at their pixels. -/
theorem stores_memcpy {Cell : Type} (mode : VbeModeInfo) (pixel : Cell → UInt16 × UInt16)
    (colour : Cell → UInt32) :
    Stores (fun buf (pixel : UInt16 × UInt16) => pixelBytes mode buf pixel.1 pixel.2)
      (fun cell => memcpy (pixelIndex mode (pixel cell).1 (pixel cell).2) (colorByte (colour cell))
        (bytesPerPixel mode))
      pixel (fun cell => colorBytes mode (colour cell)) (fun pixel => Reached mode pixel.1 pixel.2) := by
  intro cell buf reached
  refine ⟨?_, fun other reached' different => ?_⟩
  · refine (reached.pixelBytes_memcpy reached _ buf).trans ?_
    exact if_pos rfl
  · refine (reached.pixelBytes_memcpy reached' _ buf).trans ?_
    exact if_neg different

/-- The pixel is one of the first `count` cells of a shape, in row-major order. -/
def AmongCells (x y : UInt16) (width count : Nat) (px py : UInt16) : Prop :=
  x.toNat ≤ px.toNat ∧ px.toNat < x.toNat + width ∧ y.toNat ≤ py.toNat ∧
    width * (py.toNat - y.toNat) + (px.toNat - x.toNat) < count

instance (x y : UInt16) (width count : Nat) (px py : UInt16) :
    Decidable (AmongCells x y width count px py) :=
  inferInstanceAs (Decidable (_ ∧ _))

/-- The pixel of a cell on the screen, exactly. -/
theorem CellOnScreen.cellPixel_toNat {mode : VbeModeInfo} {x y : UInt16} {width place : Nat}
    (onScreen : CellOnScreen mode x y width place) :
    (cellPixel x y width place).1.toNat = x.toNat + place % width ∧
      (cellPixel x y width place).2.toNat = y.toNat + place / width := by
  have columns := mode.XResolution.toNat_lt
  have rows := mode.YResolution.toNat_lt
  obtain ⟨column, row⟩ := onScreen
  exact ⟨coordinate_toNat (by omega), coordinate_toNat (by omega)⟩

/-- A pixel among the cells is the pixel of a cell. -/
theorem AmongCells.cellPixel_eq {x y : UInt16} {width count : Nat} {px py : UInt16}
    (among : AmongCells x y width count px py) :
    cellPixel x y width (index width (px.toNat - x.toNat) (py.toNat - y.toNat)) = (px, py) := by
  obtain ⟨left, right, above, -⟩ := among
  have pxSmall := px.toNat_lt
  have pySmall := py.toNat_lt
  have column : px.toNat - x.toNat < width := by omega
  have xSum : x.toNat + (px.toNat - x.toNat) = px.toNat := by omega
  have ySum : y.toNat + (py.toNat - y.toNat) = py.toNat := by omega
  unfold cellPixel coordinate
  rw [index_mod column, index_div column, xSum, ySum, UInt16.ofNat_toNat, UInt16.ofNat_toNat]

/-- A cell is among the first `count` ones exactly when its pixel is. -/
theorem CellOnScreen.among {mode : VbeModeInfo} {x y : UInt16} {width place count : Nat}
    (onScreen : CellOnScreen mode x y width place) (wide : 0 < width) (below : place < count) :
    AmongCells x y width count (cellPixel x y width place).1 (cellPixel x y width place).2 := by
  obtain ⟨column, row⟩ := onScreen.cellPixel_toNat
  have parts := Nat.div_add_mod place width
  have remainder := Nat.mod_lt place wide
  unfold AmongCells
  rw [column, row, Nat.add_sub_cancel_left, Nat.add_sub_cancel_left]
  exact ⟨Nat.le_add_right _ _, by omega, Nat.le_add_right _ _, by omega⟩

/-- **The pixels of the first cells have their colours, and all others keep theirs.** -/
theorem pixelBytes_writeCells {mode : VbeModeInfo} (reach : frameSize mode ≤ 2 ^ 32) {x y : UInt16}
    {width height count : Nat} (colour : Nat → Nat → UInt32) (within : count ≤ width * height)
    (onScreen : ∀ place < count, CellOnScreen mode x y width place) (buf : Memory) {px py : UInt16}
    (accepted : Accepts mode px py) :
    pixelBytes mode (writeAll (writeCell mode x y width colour) (List.range count) buf) px py =
      if AmongCells x y width count px py then
        colorBytes mode (colour (px.toNat - x.toNat) (py.toNat - y.toNat))
      else pixelBytes mode buf px py := by
  have stores := stores_memcpy mode (cellPixel x y width)
    fun place => colour (place % width) (place / width)
  have reached : ∀ place ∈ List.range count, Reached mode (cellPixel x y width place).1
      (cellPixel x y width place).2 :=
    fun place member => (onScreen place (List.mem_range.mp member)).accepts.reached reach
  by_cases among : AmongCells x y width count px py
  · rw [if_pos among]
    have same := among.cellPixel_eq
    obtain ⟨left, right, above, below⟩ := among
    have column : px.toNat - x.toNat < width := by omega
    have place : index width (px.toNat - x.toNat) (py.toNat - y.toNat) < count := below
    have painted := read_painted stores reached (List.mem_range.mpr place)
      (fun other member equal => ?_) buf
    · simp only [index_mod column, index_div column, same] at painted
      exact painted
    · -- two cells with one pixel are one cell
      obtain ⟨otherColumn, otherRow⟩ := (onScreen other (List.mem_range.mp member)).cellPixel_toNat
      obtain ⟨thisColumn, thisRow⟩ := (onScreen _ place).cellPixel_toNat
      rw [equal] at otherColumn otherRow
      have columns : other % width =
        index width (px.toNat - x.toNat) (py.toNat - y.toNat) % width := by omega
      have rows : other / width =
        index width (px.toNat - x.toNat) (py.toNat - y.toNat) / width := by omega
      rw [columns, rows]
  · rw [if_neg among]
    have reached' : Reached mode px py := accepted.reached reach
    refine read_untouched stores (px, py) reached reached' (fun place member same => ?_) buf
    have below := List.mem_range.mp member
    have wide : 0 < width :=
      Nat.pos_of_mul_pos_right (Nat.lt_of_le_of_lt (Nat.zero_le _) (Nat.lt_of_lt_of_le below within))
    have cell := (onScreen place below).among wide below
    rw [same] at cell
    exact among cell

/-- The bytes behind the frame are not written. -/
theorem writeCells_beyond {mode : VbeModeInfo} (reach : frameSize mode ≤ 2 ^ 32) {x y : UInt16}
    {width count : Nat} (colour : Nat → Nat → UInt32)
    (onScreen : ∀ place < count, CellOnScreen mode x y width place) (buf : Memory) {address : Nat}
    (beyond : frameSize mode ≤ address) :
    writeAll (writeCell mode x y width colour) (List.range count) buf address = buf address := by
  refine writeAll_invariant (P := fun after : Memory => after address = buf address)
    (fun place member after same => ?_) rfl
  have accepted := (onScreen place (List.mem_range.mp member)).accepts
  have inside := block_le accepted
  rw [writeCell, (accepted.reached reach).pixelIndex_eq, memcpy, if_neg (by omega)]
  exact same

/-! ### The two functions -/

/-- What is asked of a drawing call: behind a success exactly the pixels of the shape have its colours; behind
a failure those of the cells before the first one off the screen have. -/
structure ShapeDrawn (mode : VbeModeInfo) (x y : UInt16) (width height : Nat)
    (colour : Nat → Nat → UInt32) (before : Memory) (result : Int × Memory) : Prop where
  success : result.1 = 0 → ∀ px py, Accepts mode px py →
    pixelBytes mode result.2 px py =
      if x ≤ px ∧ px.toNat < x.toNat + width ∧ y ≤ py ∧ py.toNat < y.toNat + height then
        colorBytes mode (colour (px.toNat - x.toNat) (py.toNat - y.toNat))
      else pixelBytes mode before px py
  failure : result.1 ≠ 0 → ∃ count < width * height,
    (∀ place < count, CellOnScreen mode x y width place) ∧ ¬ CellOnScreen mode x y width count ∧
    ∀ px py, Accepts mode px py →
      pixelBytes mode result.2 px py =
        if AmongCells x y width count px py then
          colorBytes mode (colour (px.toNat - x.toNat) (py.toNat - y.toNat))
        else pixelBytes mode before px py
  beyond : ∀ address, frameSize mode ≤ address → result.2 address = before address

/-- A pixel is among all cells exactly when it lies in the rectangle. -/
theorem amongCells_all {x y px py : UInt16} {width height : Nat} :
    AmongCells x y width (width * height) px py ↔
      x ≤ px ∧ px.toNat < x.toNat + width ∧ y ≤ py ∧ py.toNat < y.toNat + height := by
  rw [AmongCells, UInt16.le_iff_toNat_le, UInt16.le_iff_toNat_le]
  constructor
  · rintro ⟨left, right, above, below⟩
    have row := (@cell_lt width height _ below).2
    have column : px.toNat - x.toNat < width := by omega
    rw [← index, index_div column] at row
    exact ⟨left, right, above, by omega⟩
  · rintro ⟨left, right, above, below⟩
    have column : px.toNat - x.toNat < width := by omega
    have row : py.toNat - y.toNat < height := by omega
    exact ⟨left, right, above, index_lt column row⟩

/-- **The loop of a shape changes the pixels it should**, in a frame of up to 2^32 bytes. -/
theorem drawShape_drawn {mode : VbeModeInfo} (reach : frameSize mode ≤ 2 ^ 32) (x y : UInt16)
    (width height : Nat) (colour : Nat → Nat → UInt32) (buf : Memory) :
    ShapeDrawn mode x y width height colour buf (drawShape mode x y width height colour buf) := by
  obtain ⟨count, within, onScreen, refused, loop⟩ :=
    untilFailure_range_guarded (CellOnScreen mode x y width) (writeCell mode x y width colour)
      (width * height) buf
  rw [drawShape, loop]
  refine ⟨fun passed px py accepted => ?_, fun failed => ?_, fun address => ?_⟩
  · have all : count = width * height := by
      by_contra short
      exact Int.one_ne_zero ((if_neg short).symm.trans passed)
    rw [all] at onScreen ⊢
    refine (pixelBytes_writeCells reach colour (Nat.le_refl _) onScreen buf accepted).trans ?_
    simp only [amongCells_all]
  · have short : count ≠ width * height := fun all => failed (if_pos all)
    refine ⟨count, Nat.lt_of_le_of_ne within short, onScreen,
      refused (Nat.lt_of_le_of_ne within short), fun px py accepted => ?_⟩
    exact pixelBytes_writeCells reach colour within onScreen buf accepted
  · exact writeCells_beyond reach colour onScreen buf

/-- The colours that an image's pixels take are those `xpm_load` has returned for them. -/
theorem XpmImage.colour_eq (image : XpmImage) {w h : Nat} (column : w < image.width.toNat)
    (row : h < image.height.toNat) :
    image.colors[h * image.width.toNat + w]? = some (image.colour w h) := by
  have below : h * image.width.toNat + w < image.colors.length := by
    rw [image.sized, Nat.mul_comm h]
    exact index_lt column row
  rw [XpmImage.colour, List.getD_eq_getElem?_getD, List.getElem?_eq_getElem below]
  rfl

/-- A mode whose frame has 2^17 bytes more than 32 bits can address. -/
def wrapMode : VbeModeInfo := ⟨⟨32768, 32769⟩, 32, 6, 8, 16, 8, 8, 8, 0⟩

theorem fits_iff_pixelsOnScreen (mode : VbeModeInfo) (x y : UInt16) (width height : Nat) :
    Fits mode x y width height ↔ PixelsOnScreen mode.toModeInfo x.toNat y.toNat width height := by
  have xSmall := x.toNat_lt
  have ySmall := y.toNat_lt
  rw [pixelsOnScreen_iff, u16_of_range (by omega) (by omega), u16_of_range (by omega) (by omega), Fits,
    ModeInfo.width, ModeInfo.height]
  omega

/-- The status of the drawing functions is the one of the model without a buffer. -/
theorem status_eq (mode : VbeModeInfo) (x y : UInt16) (buf : Memory) :
    (∀ width height color, (vgDrawRectangle mode x y width height color buf).1 =
      SpaceInvaders.vgDrawRectangle mode.toModeInfo x.toNat y.toNat width.toNat height.toNat) ∧
    ∀ image, (printXpm mode image x y buf).1 =
      SpaceInvaders.printXpm mode.toModeInfo ⟨image.width.toNat, image.height.toNat⟩ x.toNat y.toNat := by
  have same : ∀ width height colour, (drawShape mode x y width height colour buf).1 =
      if PixelsOnScreen mode.toModeInfo x.toNat y.toNat width height then 0 else 1 := by
    intro width height colour
    have fits := (drawShape_eq_zero_iff mode x y width height colour buf).trans
      (fits_iff_pixelsOnScreen mode x y width height)
    rcases drawShape_status mode x y width height colour buf with passed | failed
    · rw [passed, if_pos (fits.mp passed)]
    · rw [failed, if_neg]
      intro onScreen
      exact Int.one_ne_zero (failed.symm.trans (fits.mpr onScreen))
  refine ⟨fun width height color => ?_, fun image => ?_⟩
  · rw [vgDrawRectangle_eq]
    exact same _ _ _
  · rw [printXpm_eq]
    exact same _ _ _

end BackBuffer

end SpaceInvaders
