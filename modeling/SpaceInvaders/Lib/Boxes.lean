/-
**Boxes of pixels**, and when two of them meet.

A box is a half-open rectangle of the integer plane. `meet_iff` is the four-inequality test of two boxes
that are not empty.
-/

import Mathlib.Data.Set.Basic

/-- A box by its corner and its size. -/
structure Box where
  x : Int
  y : Int
  width : Int
  height : Int
deriving DecidableEq

namespace Box

/-- The pixels of a box. -/
def pixels (box : Box) : Set (Int × Int) :=
  {pixel | (box.x ≤ pixel.1 ∧ pixel.1 < box.x + box.width) ∧
    box.y ≤ pixel.2 ∧ pixel.2 < box.y + box.height}

/-- Two boxes share a pixel. -/
def Meet (a b : Box) : Prop := (a.pixels ∩ b.pixels).Nonempty

/-- The box has pixels. -/
structure Solid (box : Box) : Prop where
  width : 0 < box.width
  height : 0 < box.height

variable {a b : Box}

/-- **The test of two boxes** by four inequalities. -/
theorem meet_iff (solid : a.Solid) (solid' : b.Solid) :
    a.Meet b ↔ a.x < b.x + b.width ∧ b.x < a.x + a.width ∧
      a.y < b.y + b.height ∧ b.y < a.y + a.height := by
  obtain ⟨wide, tall⟩ := solid
  obtain ⟨wide', tall'⟩ := solid'
  constructor
  · rintro ⟨⟨x, y⟩, ⟨⟨left, right⟩, top, bottom⟩, ⟨left', right'⟩, top', bottom'⟩
    simp only at left right top bottom left' right' top' bottom'
    omega
  · rintro ⟨left, right, top, bottom⟩
    -- the upper left corner of the common part
    refine ⟨(max a.x b.x, max a.y b.y), ⟨⟨le_max_left _ _, ?_⟩, le_max_left _ _, ?_⟩,
      ⟨le_max_right _ _, ?_⟩, le_max_right _ _, ?_⟩
    · exact max_lt (by omega) right
    · exact max_lt (by omega) bottom
    · exact max_lt left (by omega)
    · exact max_lt top (by omega)

end Box
