/-
**Row-major order.**

`index width x y` is the place of column `x` of row `y` in rows of `width` cells, one row behind the
other.

* `index_lt`, `index_inj`, `index_mod_div`: the cells of a grid and the places below its area correspond;
* `offset_le`, `block_disjoint`, `exists_block`: the same of blocks of bytes, one for each place;
* `rows_range`: nested loops over the rows and columns go through the places in their order.
-/

import Mathlib.Algebra.Order.Group.Nat
import Mathlib.Data.List.Range

namespace RowMajor

variable {width height x y x' y' : Nat}

/-- The place of a cell. -/
def index (width x y : Nat) : Nat := width * y + x

/-- The cell of a place. -/
theorem index_mod_div (width place : Nat) : index width (place % width) (place / width) = place :=
  Nat.div_add_mod place width

theorem index_div (column : x < width) : index width x y / width = y := by
  have positive : 0 < width := Nat.lt_of_le_of_lt (Nat.zero_le x) column
  rw [index, Nat.mul_add_div positive, Nat.div_eq_of_lt column, Nat.add_zero]

theorem index_mod (column : x < width) : index width x y % width = x := by
  rw [index, Nat.mul_add_mod, Nat.mod_eq_of_lt column]

/-- Two cells have two places. -/
theorem index_inj (column : x < width) (column' : x' < width) :
    index width x y = index width x' y' ↔ x = x' ∧ y = y' := by
  constructor
  · intro same
    have columns := congrArg (· % width) same
    have rows := congrArg (· / width) same
    simp only [index_mod column, index_mod column'] at columns
    simp only [index_div column, index_div column'] at rows
    exact ⟨columns, rows⟩
  · rintro ⟨rfl, rfl⟩
    rfl

/-- The cells of a grid lie below its area. -/
theorem index_lt (column : x < width) (row : y < height) : index width x y < width * height := by
  have rows : width * (y + 1) ≤ width * height := Nat.mul_le_mul_left width row
  rw [Nat.mul_succ] at rows
  unfold index
  omega

/-- The cell of a place below the area is in the grid. -/
theorem cell_lt {place : Nat} (below : place < width * height) :
    place % width < width ∧ place / width < height := by
  have positive : 0 < width := Nat.pos_of_mul_pos_right (Nat.lt_of_le_of_lt (Nat.zero_le _) below)
  exact ⟨Nat.mod_lt _ positive, Nat.div_lt_of_lt_mul below⟩

/-! ### Blocks of bytes -/

variable {size place place' count address : Nat}

/-- The blocks of the places below `count` lie below their total size. -/
theorem offset_le (size : Nat) (below : place < count) : place * size + size ≤ count * size := by
  rw [← Nat.succ_mul]
  exact Nat.mul_le_mul_right size below

/-- The blocks of two places share no address. -/
theorem block_disjoint (different : place ≠ place') (inside : place * size ≤ address)
    (below : address < place * size + size) :
    ¬ (place' * size ≤ address ∧ address < place' * size + size) := by
  rintro ⟨inside', below'⟩
  rcases Nat.lt_or_gt_of_ne different with less | greater
  · have := offset_le size less
    omega
  · have := offset_le size greater
    omega

/-- An address below the total size is in the block of a place. -/
theorem exists_block (below : address < count * size) :
    ∃ place < count, place * size ≤ address ∧ address < place * size + size := by
  have positive : 0 < size := Nat.pos_of_mul_pos_left (Nat.lt_of_le_of_lt (Nat.zero_le _) below)
  have parts := Nat.div_add_mod address size
  have remainder := Nat.mod_lt address positive
  refine ⟨address / size, ?_, ?_, ?_⟩
  · exact Nat.div_lt_of_lt_mul (by rwa [Nat.mul_comm])
  · exact Nat.div_mul_le_self address size
  · rw [Nat.mul_comm size] at parts
    omega

/-! ### Nested loops -/

/-- Rows of columns, in the order of their places. -/
theorem rows_range {Cell : Type*} (width height : Nat) (cell : Nat → Nat → Cell) :
    ((List.range height).flatMap fun y => (List.range width).map fun x => cell x y) =
      (List.range (width * height)).map fun place => cell (place % width) (place / width) := by
  induction height with
  | zero => rfl
  | succ height ih =>
    rw [List.range_succ, List.flatMap_append, ih, Nat.mul_succ, List.range_add, List.map_append,
      List.map_map, List.flatMap_singleton]
    congr 1
    refine List.map_congr_left fun x member => ?_
    have column := List.mem_range.mp member
    show cell x height = cell (index width x height % width) (index width x height / width)
    rw [index_mod column, index_div column]

end RowMajor
