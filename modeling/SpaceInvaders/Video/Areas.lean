/-
**The two ways to fill an area.**

`clear_area` counts with 16-bit counters up to `y + height` and `x + width`, which are computed wider;
`vg_draw_rectangle` counts from zero. While a pixel of the area is drawn, the screen's resolution keeps both
counters from wrapping around. Only an area without pixels has nothing that does.

* `returns_pixel`, `returns_refused`, `returns_next`: one cell of the area;
* `clearArea_returns`: the loops of `clear_area` are the loop of the shape;
* `not_clearAreaReturns`: an empty row whose rows end beyond 65535 is never left;
* `clearArea_agrees_iff`: in all other cases the two agree.
-/

import SpaceInvaders.Video.Shapes

namespace SpaceInvaders

namespace BackBuffer

open Painting RowMajor

variable {mode : VbeModeInfo} {x y width height : UInt16} {color : UInt32} {buf : Memory} {place : Nat}
  {result : Int × Memory}

/-- The state of `clear_area` before a cell: before its row, or inside of it. -/
def clearAreaAt (x y width : UInt16) (place : Nat) (buf : Memory) : ClearArea :=
  if place % width.toNat = 0 then .row (coordinate y (place / width.toNat)) buf
  else .pixel (coordinate y (place / width.toNat)) (coordinate x (place % width.toNat)) buf

theorem coordinate_succ (start : UInt16) (i : Nat) : coordinate start i + 1 = coordinate start (i + 1) := by
  unfold coordinate
  rw [← Nat.add_assoc, UInt16.ofNat_add (start.toNat + i) 1]
  rfl

theorem coordinate_zero (start : UInt16) : coordinate start 0 = start := by
  unfold coordinate
  rw [Nat.add_zero, UInt16.ofNat_toNat]

/-- A row goes on with its first pixel. -/
theorem returns_row {r : Nat} (below : r < height.toNat) (small : y.toNat + r < 65536) :
    Loops.Returns (clearAreaRound mode x y width height color) (.row (coordinate y r) buf) result ↔
      Loops.Returns (clearAreaRound mode x y width height color) (.pixel (coordinate y r) x buf)
        result := by
  refine Loops.returns_goesOn ?_
  rw [clearAreaRound, if_pos]
  rw [coordinate_toNat small]
  omega

/-- A row behind its last pixel goes on with the next row. -/
theorem returns_rowEnd {r : Nat} (small : x.toNat + width.toNat < 65536) :
    Loops.Returns (clearAreaRound mode x y width height color)
        (.pixel (coordinate y r) (coordinate x width.toNat) buf) result ↔
      Loops.Returns (clearAreaRound mode x y width height color) (.row (coordinate y (r + 1)) buf)
        result := by
  refine Loops.returns_goesOn ?_
  rw [clearAreaRound, if_neg, coordinate_succ]
  rw [coordinate_toNat small]
  exact Nat.lt_irrefl _

/-- Behind the last row the function returns. -/
theorem returns_areaEnd (small : y.toNat + height.toNat < 65536) :
    Loops.Returns (clearAreaRound mode x y width height color) (.row (coordinate y height.toNat) buf)
      (0, buf) := by
  refine (Loops.returns_done ?_).mpr rfl
  rw [clearAreaRound, if_neg]
  rw [coordinate_toNat small]
  exact Nat.lt_irrefl _

/-- The state before a cell goes on to its pixel. -/
theorem returns_clearAreaAt (below : place < width.toNat * height.toNat)
    (before : ∀ earlier < place, CellOnScreen mode x y width.toNat earlier) :
    Loops.Returns (clearAreaRound mode x y width height color) (clearAreaAt x y width place buf) result ↔
      Loops.Returns (clearAreaRound mode x y width height color)
        (.pixel (coordinate y (place / width.toNat)) (coordinate x (place % width.toNat)) buf)
        result := by
  have wide : 0 < width.toNat :=
    Nat.pos_of_mul_pos_right (Nat.lt_of_le_of_lt (Nat.zero_le _) below)
  have row := (cell_lt below).2
  unfold clearAreaAt
  by_cases first : place % width.toNat = 0
  · rw [if_pos first, first, coordinate_zero]
    exact returns_row row (coordinate_exact wide before).2
  · rw [if_neg first]

/-- A pixel on the screen is written, and the loop goes on to its right. -/
theorem returns_pixel (below : place < width.toNat * height.toNat)
    (before : ∀ earlier < place, CellOnScreen mode x y width.toNat earlier)
    (onScreen : CellOnScreen mode x y width.toNat place) :
    Loops.Returns (clearAreaRound mode x y width height color)
        (.pixel (coordinate y (place / width.toNat)) (coordinate x (place % width.toNat)) buf) result ↔
      Loops.Returns (clearAreaRound mode x y width height color)
        (.pixel (coordinate y (place / width.toNat)) (coordinate x (place % width.toNat + 1))
          (writeCell mode x y width.toNat (fun _ _ => normColor mode color) place buf)) result := by
  have column := (cell_lt below).1
  have wide : 0 < width.toNat := Nat.lt_of_le_of_lt (Nat.zero_le _) column
  have drawn := vgDrawPixel_cell wide before (fun _ _ => normColor mode color) buf
  refine Loops.returns_goesOn ?_
  rw [clearAreaRound, if_pos, drawn, guarded_pos onScreen, coordinate_succ]
  · exact if_neg (not_not.mpr rfl)
  · rw [coordinate_toNat (coordinate_exact wide before).1]
    omega

/-- A pixel off the screen ends the function. -/
theorem returns_refused (below : place < width.toNat * height.toNat)
    (before : ∀ earlier < place, CellOnScreen mode x y width.toNat earlier)
    (refused : ¬ CellOnScreen mode x y width.toNat place) :
    Loops.Returns (clearAreaRound mode x y width height color)
      (.pixel (coordinate y (place / width.toNat)) (coordinate x (place % width.toNat)) buf) (1, buf) := by
  have column := (cell_lt below).1
  have wide : 0 < width.toNat := Nat.lt_of_le_of_lt (Nat.zero_le _) column
  have drawn := vgDrawPixel_cell wide before (fun _ _ => normColor mode color) buf
  refine (Loops.returns_done ?_).mpr rfl
  rw [clearAreaRound, if_pos, drawn, guarded_neg refused]
  · exact if_pos Int.one_ne_zero
  · rw [coordinate_toNat (coordinate_exact wide before).1]
    omega

/-- The next cell, when the pixel left of it or the row before it has been written. -/
theorem returns_next (below : place < width.toNat * height.toNat)
    (onScreen : CellOnScreen mode x y width.toNat place) :
    Loops.Returns (clearAreaRound mode x y width height color)
        (.pixel (coordinate y (place / width.toNat)) (coordinate x (place % width.toNat + 1)) buf)
        result ↔
      Loops.Returns (clearAreaRound mode x y width height color)
        (clearAreaAt x y width (place + 1) buf) result := by
  have column := (cell_lt below).1
  have columns := mode.XResolution.toNat_lt
  have parts := Nat.div_add_mod place width.toNat
  rcases Nat.lt_or_eq_of_le (Nat.succ_le_of_lt column) with inside | last
  · -- the same row goes on
    have next : place + 1 = index width.toNat (place % width.toNat + 1) (place / width.toNat) := by
      unfold index
      omega
    rw [clearAreaAt, next, index_mod inside, index_div inside, if_neg (Nat.succ_ne_zero _)]
  · -- the next row begins
    have wide : 0 < width.toNat := Nat.lt_of_le_of_lt (Nat.zero_le _) column
    have next : place + 1 = index width.toNat 0 (place / width.toNat + 1) := by
      unfold index
      rw [Nat.mul_succ]
      omega
    have small : x.toNat + width.toNat < 65536 := by
      have := onScreen.1
      omega
    rw [clearAreaAt, next, index_mod wide, index_div wide, if_pos rfl]
    have same : place % width.toNat + 1 = width.toNat := last
    rw [same]
    exact returns_rowEnd small

/-- Behind all cells the function returns: the last row has one on the screen, so the counter has not
wrapped around. -/
theorem returns_allCells (wide : 0 < width.toNat) (tall : 0 < height.toNat)
    (onScreen : ∀ place < width.toNat * height.toNat, CellOnScreen mode x y width.toNat place) :
    Loops.Returns (clearAreaRound mode x y width height color)
      (clearAreaAt x y width (width.toNat * height.toNat) buf) (0, buf) := by
  have bottom := (onScreen (index width.toNat 0 (height.toNat - 1)) (index_lt wide (by omega))).2
  rw [index_div wide] at bottom
  have rows := mode.YResolution.toNat_lt
  have ends : clearAreaAt x y width (width.toNat * height.toNat) buf =
      .row (coordinate y height.toNat) buf := by
    rw [clearAreaAt, Nat.mul_mod_right, if_pos rfl, Nat.mul_div_cancel_left _ wide]
  rw [ends]
  exact returns_areaEnd (by omega)

/-- **The loops of `clear_area` are the loop of the shape**, when the area has pixels. -/
theorem clearArea_returns (wide : 0 < width.toNat) (tall : 0 < height.toNat) (buf : Memory) :
    ClearAreaReturns mode x y width height color buf
      (drawShape mode x y width.toNat height.toNat (fun _ _ => normColor mode color) buf) := by
  have rest : ∀ remaining place buf, place + remaining = width.toNat * height.toNat →
      (∀ earlier < place, CellOnScreen mode x y width.toNat earlier) →
      Loops.Returns (clearAreaRound mode x y width height color) (clearAreaAt x y width place buf)
        (untilFailure (guarded (CellOnScreen mode x y width.toNat)
            (writeCell mode x y width.toNat fun _ _ => normColor mode color))
          (List.range' place remaining) buf) := by
    intro remaining
    induction remaining with
    | zero =>
      intro place buf all before
      rw [Nat.add_zero] at all
      subst all
      exact returns_allCells wide tall before
    | succ remaining ih =>
      intro place buf sum before
      have below : place < width.toNat * height.toNat := by omega
      rw [List.range'_succ, returns_clearAreaAt below before]
      by_cases onScreen : CellOnScreen mode x y width.toNat place
      · rw [untilFailure_accepted onScreen, returns_pixel below before onScreen,
          returns_next below onScreen]
        refine ih (place + 1) _ (by omega) fun earlier less => ?_
        rcases Nat.lt_or_eq_of_le (Nat.le_of_lt_succ less) with earlier' | rfl
        · exact before earlier earlier'
        · exact onScreen
      · rw [untilFailure_refused onScreen]
        exact returns_refused below before onScreen
  have start : clearAreaAt x y width 0 buf = .row y buf := by
    rw [clearAreaAt, Nat.zero_mod, if_pos rfl, Nat.zero_div, coordinate_zero]
  have whole := rest (width.toNat * height.toNat) 0 buf (Nat.zero_add _) fun earlier less =>
    absurd less (Nat.not_lt_zero earlier)
  rw [start, ← List.range_eq_range'] at whole
  exact whole

/-! ### Areas without pixels -/

/-- A shape without cells draws nothing. -/
theorem drawShape_empty {width height : Nat} (empty : width * height = 0)
    (colour : Nat → Nat → UInt32) (buf : Memory) : drawShape mode x y width height colour buf = (0, buf) := by
  rw [drawShape, empty]
  rfl

/-- An area without columns is left behind its last row, when the row counter gets there. -/
theorem clearArea_noColumns (none : width.toNat = 0) (small : y.toNat + height.toNat < 65536)
    (buf : Memory) : ClearAreaReturns mode x y width height color buf (0, buf) := by
  have xSmall := x.toNat_lt
  have rest : ∀ remaining r, r + remaining = height.toNat →
      Loops.Returns (clearAreaRound mode x y width height color) (.row (coordinate y r) buf)
        (0, buf) := by
    intro remaining
    induction remaining with
    | zero =>
      intro r all
      rw [Nat.add_zero] at all
      rw [all]
      exact returns_areaEnd small
    | succ remaining ih =>
      intro r sum
      have leaves : Loops.Returns (clearAreaRound mode x y width height color)
            (.pixel (coordinate y r) (coordinate x width.toNat) buf) (0, buf) ↔
          Loops.Returns (clearAreaRound mode x y width height color)
            (.row (coordinate y (r + 1)) buf) (0, buf) := returns_rowEnd (by omega)
      rw [none, coordinate_zero] at leaves
      rw [returns_row (by omega) (by omega), leaves]
      exact ih (r + 1) (by omega)
  have whole := rest height.toNat 0 (Nat.zero_add _)
  rwa [coordinate_zero] at whole

/-- **An area without columns whose rows end beyond the counter's range is never left.** -/
theorem not_clearAreaReturns (none : width = 0) (beyond : 65536 ≤ y.toNat + height.toNat)
    (buf : Memory) (result : Int × Memory) :
    ¬ ClearAreaReturns mode x y width height color buf result := by
  refine Loops.never_returns (P := fun state =>
    (∃ i buf, state = .row i buf) ∨ ∃ i buf, state = .pixel i x buf) (fun state inv => ?_)
    (.inl ⟨y, buf, rfl⟩)
  rcases inv with ⟨i, after, rfl⟩ | ⟨i, after, rfl⟩
  · -- the counter is below 65536, so its row is always one more
    have iSmall := i.toNat_lt
    exact ⟨.pixel i x after, if_pos (by omega), .inr ⟨i, after, rfl⟩⟩
  · refine ⟨.row (i + 1) after, if_neg ?_, .inl ⟨i + 1, after, rfl⟩⟩
    rw [none]
    exact Nat.lt_irrefl _

/-! ### The agreement -/

/-- **`clear_area` returns what `vg_draw_rectangle` does, with the same buffer**, unless its area has no
columns and its last row lies beyond 65535: then it does not return. -/
theorem clearArea_agrees_iff (mode : VbeModeInfo) (x y width height : UInt16) (color : UInt32)
    (buf : Memory) :
    ClearAreaReturns mode x y width height color buf
        (vgDrawRectangle mode x y width height (normColor mode color) buf) ↔
      ¬ (width = 0 ∧ 65536 ≤ y.toNat + height.toNat) := by
  constructor
  · rintro returns ⟨none, beyond⟩
    exact not_clearAreaReturns none beyond buf _ returns
  · intro leaves
    rw [vgDrawRectangle_eq]
    rcases Nat.eq_zero_or_pos width.toNat with none | wide
    · have zero : width = 0 := UInt16.toNat_inj.mp none
      rw [drawShape_empty (by rw [none, Nat.zero_mul])]
      refine clearArea_noColumns none ?_ buf
      by_contra beyond
      exact leaves ⟨zero, by omega⟩
    rcases Nat.eq_zero_or_pos height.toNat with none | tall
    · rw [drawShape_empty (by rw [none, Nat.mul_zero])]
      have ySmall := y.toNat_lt
      have ends : Loops.Returns (clearAreaRound mode x y width height color)
          (.row (coordinate y height.toNat) buf) (0, buf) := returns_areaEnd (by omega)
      rwa [none, coordinate_zero] at ends
    · exact clearArea_returns wide tall buf

/-- A row without pixels at the largest coordinate: `clear_area` does not return, and
`vg_draw_rectangle` does. -/
theorem not_clearAreaReturns_lastRow :
    ¬ ClearAreaReturns smallMode 0 65535 0 1 0xFF (fun _ => 0)
      (vgDrawRectangle smallMode 0 65535 0 1 (normColor smallMode 0xFF) fun _ => 0) :=
  not_clearAreaReturns rfl (by decide) _ _

end BackBuffer

end SpaceInvaders
