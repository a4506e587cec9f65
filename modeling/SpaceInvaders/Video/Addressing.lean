/-
**Where the pixels are in the buffer.**

The buffer is cut into blocks of `bytes_per_pixel` bytes, one for each pixel in row-major order. The 32 bits
of `idx` and of `vram_size` are enough for a frame below 2^31 bytes, and up to 2^32 bytes for the pixels.

* `vgDrawPixel_eq`: a drawn pixel is a `memcpy` to its block;
* `Reached.disjoint`, `exists_pixel`: every byte of the frame is in the block of one pixel;
* `clearBackBuf_returns`: `clear_back_buf` visits the blocks in their order;
* `addressing_of_small`: all of it, for every mode with a frame below 2^31 bytes.
-/

import SpaceInvaders.Lib.RowMajor
import SpaceInvaders.Model.BackBuffer

namespace SpaceInvaders

namespace BackBuffer

open RowMajor

/-- The pixel is on the screen, which is where `vg_draw_pixel` accepts it. -/
def Accepts (mode : VbeModeInfo) (x y : UInt16) : Prop := x < mode.XResolution ∧ y < mode.YResolution

instance (mode : VbeModeInfo) (x y : UInt16) : Decidable (Accepts mode x y) :=
  inferInstanceAs (Decidable (_ ∧ _))

/-- The address is one of the bytes that begin at the pixel's index. -/
def InPixel (mode : VbeModeInfo) (x y : UInt16) (address : Nat) : Prop :=
  pixelIndex mode x y ≤ address ∧ address < pixelIndex mode x y + bytesPerPixel mode

instance (mode : VbeModeInfo) (x y : UInt16) (address : Nat) : Decidable (InPixel mode x y address) :=
  inferInstanceAs (Decidable (_ ∧ _))

theorem accepts_iff {mode : VbeModeInfo} {x y : UInt16} :
    Accepts mode x y ↔ x.toNat < mode.XResolution.toNat ∧ y.toNat < mode.YResolution.toNat := by
  rw [Accepts, UInt16.lt_iff_toNat_lt, UInt16.lt_iff_toNat_lt]

/-- A drawn pixel is a copy of its colour to its block; outside the screen nothing is drawn. -/
theorem vgDrawPixel_eq (mode : VbeModeInfo) (x y : UInt16) (color : UInt32) (buf : Memory) :
    vgDrawPixel mode x y color buf =
      if Accepts mode x y then
        (0, memcpy (pixelIndex mode x y) (colorByte color) (bytesPerPixel mode) buf)
      else (1, buf) := by
  have outside : (x ≥ mode.XResolution ∨ y ≥ mode.YResolution ∨ x < 0 ∨ y < 0) ↔ ¬ Accepts mode x y := by
    have notNegative : ∀ z : UInt16, ¬ z < 0 := fun z => by simp
    simp only [notNegative, or_false, ge_iff_le, Accepts, not_and_or, UInt16.not_lt]
  unfold vgDrawPixel
  by_cases accepted : Accepts mode x y
  · rw [if_pos accepted, if_neg (fun beyond => outside.mp beyond accepted)]
  · rw [if_neg accepted, if_pos (outside.mpr accepted)]

/-! ### Blocks -/

variable {mode : VbeModeInfo} {x y x' y' : UInt16}

/-- The place of a pixel, as the blocks count it. -/
theorem place_lt (accepted : Accepts mode x y) :
    index mode.XResolution.toNat x.toNat y.toNat < mode.XResolution.toNat * mode.YResolution.toNat := by
  obtain ⟨column, row⟩ := accepts_iff.mp accepted
  exact index_lt column row

/-- The block of a pixel on the screen ends inside the frame. -/
theorem block_le (accepted : Accepts mode x y) :
    index mode.XResolution.toNat x.toNat y.toNat * bytesPerPixel mode + bytesPerPixel mode ≤
      frameSize mode :=
  offset_le _ (place_lt accepted)

/-- The pixel is on the screen, and 32 bits are enough for its bytes. -/
def Reached (mode : VbeModeInfo) (x y : UInt16) : Prop :=
  Accepts mode x y ∧
    index mode.XResolution.toNat x.toNat y.toNat * bytesPerPixel mode + bytesPerPixel mode ≤ 2 ^ 32

/-- In a frame of up to 2^32 bytes every pixel is reached. -/
theorem Accepts.reached (accepted : Accepts mode x y) (reach : frameSize mode ≤ 2 ^ 32) :
    Reached mode x y :=
  ⟨accepted, (block_le accepted).trans reach⟩

/-- The index of a reached pixel is exact. -/
theorem Reached.pixelIndex_eq (reached : Reached mode x y) :
    pixelIndex mode x y = index mode.XResolution.toNat x.toNat y.toNat * bytesPerPixel mode := by
  have inside := reached.2
  refine Nat.mod_eq_of_lt ?_
  show index mode.XResolution.toNat x.toNat y.toNat * bytesPerPixel mode < 2 ^ 32
  rcases Nat.eq_zero_or_pos (bytesPerPixel mode) with none | deep
  · rw [none, Nat.mul_zero]
    exact Nat.two_pow_pos 32
  · omega

/-- Two pixels on the screen have two places. -/
theorem place_ne (accepted : Accepts mode x y) (accepted' : Accepts mode x' y')
    (different : (x, y) ≠ (x', y')) :
    index mode.XResolution.toNat x.toNat y.toNat ≠ index mode.XResolution.toNat x'.toNat y'.toNat := by
  intro same
  obtain ⟨column, -⟩ := accepts_iff.mp accepted
  obtain ⟨column', -⟩ := accepts_iff.mp accepted'
  obtain ⟨columns, rows⟩ := (index_inj column column').mp same
  exact different (Prod.ext (UInt16.toNat_inj.mp columns) (UInt16.toNat_inj.mp rows))

/-- Two reached pixels share no byte. -/
theorem Reached.disjoint (reached : Reached mode x y) (reached' : Reached mode x' y')
    (different : (x, y) ≠ (x', y')) {address : Nat} (inside : InPixel mode x y address) :
    ¬ InPixel mode x' y' address := by
  unfold InPixel at inside ⊢
  rw [reached.pixelIndex_eq] at inside
  rw [reached'.pixelIndex_eq]
  exact block_disjoint (place_ne reached.1 reached'.1 different) inside.1 inside.2

/-- Every place of the frame is the place of a pixel on the screen. -/
theorem exists_accepted {place : Nat}
    (below : place < mode.XResolution.toNat * mode.YResolution.toNat) :
    ∃ x y, Accepts mode x y ∧ index mode.XResolution.toNat x.toNat y.toNat = place := by
  obtain ⟨column, row⟩ := cell_lt below
  have xSmall := mode.XResolution.toNat_lt
  have ySmall := mode.YResolution.toNat_lt
  have xNat : (UInt16.ofNat (place % mode.XResolution.toNat)).toNat = place % mode.XResolution.toNat :=
    UInt16.toNat_ofNat_of_lt' (Nat.lt_trans column xSmall)
  have yNat : (UInt16.ofNat (place / mode.XResolution.toNat)).toNat = place / mode.XResolution.toNat :=
    UInt16.toNat_ofNat_of_lt' (Nat.lt_trans row ySmall)
  refine ⟨_, _, accepts_iff.mpr ⟨xNat ▸ column, yNat ▸ row⟩, ?_⟩
  rw [xNat, yNat]
  exact index_mod_div _ place

/-- Every byte of the frame is in the block of a pixel on the screen. -/
theorem exists_pixel (reach : frameSize mode ≤ 2 ^ 32) {address : Nat}
    (below : address < frameSize mode) : ∃ x y, Accepts mode x y ∧ InPixel mode x y address := by
  obtain ⟨place, placeBelow, inside⟩ := exists_block below
  obtain ⟨x, y, accepted, rfl⟩ := exists_accepted placeBelow
  refine ⟨x, y, accepted, ?_⟩
  unfold InPixel
  rwa [(accepted.reached reach).pixelIndex_eq]

/-! ### `clear_back_buf` -/

/-- The loop of `clear_back_buf` behind the first `count` blocks. -/
def clearedTo (mode : VbeModeInfo) (color : UInt32) (buf : Memory) (count : Nat) : ClearBackBuf where
  i := count * bytesPerPixel mode
  buf address := if address < count * bytesPerPixel mode
    then colorByte (normColor mode color) (address % bytesPerPixel mode) else buf address
  visited := (List.range count).map (· * bytesPerPixel mode)

/-- One more block. -/
theorem clearBackBufRound_clearedTo (deep : 0 < bytesPerPixel mode)
    (small : frameSize mode < 2 ^ 32 - bytesPerPixel mode)
    (color : UInt32) (buf : Memory) {count : Nat}
    (more : count < mode.XResolution.toNat * mode.YResolution.toNat) :
    clearBackBufRound mode color (clearedTo mode color buf count) =
      .inl (clearedTo mode color buf (count + 1)) := by
  have inside : count * bytesPerPixel mode + bytesPerPixel mode ≤ frameSize mode := offset_le _ more
  have size : vramSize mode = frameSize mode := Nat.mod_eq_of_lt (by omega)
  have goesOn : (clearedTo mode color buf count).i < vramSize mode := by
    rw [size]
    show count * bytesPerPixel mode < frameSize mode
    omega
  have counter : (count * bytesPerPixel mode + bytesPerPixel mode) % 2 ^ 32 =
      (count + 1) * bytesPerPixel mode := by
    rw [Nat.succ_mul]
    exact Nat.mod_eq_of_lt (by omega)
  rw [clearBackBufRound, if_pos goesOn]
  refine congrArg Sum.inl ?_
  unfold clearedTo
  rw [ClearBackBuf.mk.injEq]
  refine ⟨counter, ?_, ?_⟩
  · funext address
    simp only [memcpy, Nat.succ_mul]
    by_cases before : address < count * bytesPerPixel mode
    · rw [if_neg (by omega), if_pos before, if_pos (by omega)]
    · by_cases here : address < count * bytesPerPixel mode + bytesPerPixel mode
      · rw [if_pos (by omega), if_pos here]
        have parts : address = bytesPerPixel mode * count + (address - count * bytesPerPixel mode) := by
          rw [Nat.mul_comm (bytesPerPixel mode)]
          omega
        have remainder : address % bytesPerPixel mode = address - count * bytesPerPixel mode := by
          conv_lhs => rw [parts]
          rw [Nat.mul_add_mod]
          exact Nat.mod_eq_of_lt (by omega)
        rw [remainder]
      · rw [if_neg (by omega), if_neg before, if_neg here]
  · rw [List.range_succ, List.map_append, List.map_singleton]

/-- **The loop visits every block once, in their order.** -/
theorem clearBackBuf_returns (deep : 0 < bytesPerPixel mode)
    (small : frameSize mode < 2 ^ 32 - bytesPerPixel mode) (color : UInt32) (buf : Memory) :
    Loops.Returns (clearBackBufRound mode color) ⟨0, buf, []⟩
      (clearedTo mode color buf (mode.XResolution.toNat * mode.YResolution.toNat)) := by
  have size : vramSize mode = frameSize mode := Nat.mod_eq_of_lt (by omega)
  have start : (⟨0, buf, []⟩ : ClearBackBuf) = clearedTo mode color buf 0 := by
    rw [clearedTo, ClearBackBuf.mk.injEq]
    refine ⟨(Nat.zero_mul _).symm, ?_, rfl⟩
    funext address
    rw [if_neg (by omega)]
  rw [start]
  refine Loops.returns_stages (clearedTo mode color buf)
    (mode.XResolution.toNat * mode.YResolution.toNat) (fun count more => ?_) ?_
  · exact clearBackBufRound_clearedTo deep small color buf more
  · refine if_neg ?_
    rw [size]
    exact Nat.lt_irrefl (frameSize mode)

/-! ### The layout -/

/-- The layout of the buffer: its size is exact, an accepted pixel is written to its own bytes of it and to
nothing else, every byte is one pixel's, and `clear_back_buf` visits each pixel once. -/
structure Addressing (mode : VbeModeInfo) : Prop where
  sized : vramSize mode = frameSize mode
  accepts : ∀ x y color buf, (vgDrawPixel mode x y color buf).1 = 0 ↔ Accepts mode x y
  covers : ∀ x y color buf, Accepts mode x y → ∀ address,
    (vgDrawPixel mode x y color buf).2 address =
      if InPixel mode x y address then colorByte color (address - pixelIndex mode x y) else buf address
  exact_index : ∀ x y, Accepts mode x y → pixelIndex mode x y =
    (mode.XResolution.toNat * y.toNat + x.toNat) * bytesPerPixel mode
  inside : ∀ x y, Accepts mode x y → pixelIndex mode x y + bytesPerPixel mode ≤ vramSize mode
  disjoint : ∀ x y x' y', Accepts mode x y → Accepts mode x' y' → (x, y) ≠ (x', y') →
    ∀ address, InPixel mode x y address → ¬ InPixel mode x' y' address
  partitions : ∀ address < vramSize mode,
    ∃! pixel : UInt16 × UInt16, Accepts mode pixel.1 pixel.2 ∧ InPixel mode pixel.1 pixel.2 address
  cleared : ∀ color buf, ∃ last,
    Loops.Returns (clearBackBufRound mode color) ⟨0, buf, []⟩ last ∧
    last.visited.Nodup ∧
    (∀ start, start ∈ last.visited ↔ ∃ x y, Accepts mode x y ∧ pixelIndex mode x y = start) ∧
    (∀ start ∈ last.visited, start + bytesPerPixel mode ≤ vramSize mode) ∧
    ∀ address, last.buf address = if address < vramSize mode
      then colorByte (normColor mode color) (address % bytesPerPixel mode) else buf address

theorem vgDrawPixel_eq_zero_iff (mode : VbeModeInfo) (x y : UInt16) (color : UInt32) (buf : Memory) :
    (vgDrawPixel mode x y color buf).1 = 0 ↔ Accepts mode x y := by
  rw [vgDrawPixel_eq]
  by_cases accepted : Accepts mode x y
  · rw [if_pos accepted]
    exact ⟨fun _ => accepted, fun _ => rfl⟩
  · rw [if_neg accepted]
    exact ⟨fun zero => absurd zero Int.one_ne_zero, fun accepts => absurd accepts accepted⟩

/-- The bytes a pixel has. -/
theorem bytesPerPixel_le (mode : VbeModeInfo) : bytesPerPixel mode ≤ 32 := by
  have := mode.BitsPerPixel.toNat_lt
  unfold bytesPerPixel
  omega

/-- Every byte of the frame is of exactly one pixel. -/
theorem existsUnique_pixel (reach : frameSize mode ≤ 2 ^ 32) {address : Nat}
    (below : address < frameSize mode) :
    ∃! pixel : UInt16 × UInt16,
      Accepts mode pixel.1 pixel.2 ∧ InPixel mode pixel.1 pixel.2 address := by
  obtain ⟨x, y, accepted, inside⟩ := exists_pixel reach below
  refine ⟨(x, y), ⟨accepted, inside⟩, ?_⟩
  rintro ⟨x', y'⟩ ⟨accepted', inside'⟩
  by_contra different
  exact (accepted.reached reach).disjoint (accepted'.reached reach) (Ne.symm different) inside inside'

/-- The blocks in their order are those of the accepted pixels. -/
theorem mem_starts_iff (reach : frameSize mode ≤ 2 ^ 32) (start : Nat) :
    start ∈ (List.range (mode.XResolution.toNat * mode.YResolution.toNat)).map
        (· * bytesPerPixel mode) ↔
      ∃ x y, Accepts mode x y ∧ pixelIndex mode x y = start := by
  rw [List.mem_map]
  constructor
  · rintro ⟨place, member, rfl⟩
    obtain ⟨x, y, accepted, rfl⟩ := exists_accepted (List.mem_range.mp member)
    exact ⟨x, y, accepted, (accepted.reached reach).pixelIndex_eq⟩
  · rintro ⟨x, y, accepted, rfl⟩
    exact ⟨_, List.mem_range.mpr (place_lt accepted), (accepted.reached reach).pixelIndex_eq.symm⟩

/-- **Pixel addressing is in bounds and injective**, in every mode with a frame below 2^31 bytes. -/
theorem addressing_of_small (mode : VbeModeInfo) (depth : 1 ≤ mode.BitsPerPixel.toNat)
    (small : frameSize mode < 2 ^ 31) : Addressing mode := by
  have deep : 0 < bytesPerPixel mode := by
    unfold bytesPerPixel
    omega
  have narrow := bytesPerPixel_le mode
  have reach : frameSize mode ≤ 2 ^ 32 := by omega
  have size : vramSize mode = frameSize mode := Nat.mod_eq_of_lt (by omega)
  have within : ∀ x y, Accepts mode x y → pixelIndex mode x y + bytesPerPixel mode ≤ vramSize mode := by
    intro x y accepted
    rw [(accepted.reached reach).pixelIndex_eq, size]
    exact block_le accepted
  refine ⟨size, vgDrawPixel_eq_zero_iff mode, fun x y color buf accepted address => ?_,
    fun x y accepted => (accepted.reached reach).pixelIndex_eq, within,
    fun x y x' y' accepted accepted' different address =>
      (accepted.reached reach).disjoint (accepted'.reached reach) different,
    fun address below => ?_, fun color buf => ?_⟩
  · rw [vgDrawPixel_eq, if_pos accepted]
    rfl
  · rw [size] at below
    exact existsUnique_pixel reach below
  · refine ⟨_, clearBackBuf_returns deep (by omega) color buf, ?_, mem_starts_iff reach,
      fun start member => ?_, fun address => ?_⟩
    · refine List.Nodup.map ?_ List.nodup_range
      exact fun place place' same => Nat.eq_of_mul_eq_mul_right deep same
    · obtain ⟨x, y, accepted, rfl⟩ := (mem_starts_iff reach start).mp member
      exact within x y accepted
    · rw [size]
      rfl

/-- A mode of two rows of three pixels with three bytes each. -/
def smallMode : VbeModeInfo := ⟨⟨3, 2⟩, 24, 6, 8, 16, 8, 8, 8, 0⟩

theorem addressing_smallMode : vramSize smallMode = 18 ∧ Addressing smallMode :=
  ⟨rfl, addressing_of_small smallMode (by decide) (by decide)⟩

end BackBuffer

end SpaceInvaders
