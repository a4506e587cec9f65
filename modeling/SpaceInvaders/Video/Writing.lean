/-
**Reading what is written on the screen.**

A writing is a text at a place, in letters or in digits; each of its characters has a cell of its own. A
writing can be read if every cell with a glyph shows exactly that glyph, and every other cell what was
there before.

* `mem_calls`: the calls of `draw_text` and `draw_number`, one for each character that has a glyph;
* `covers_iff`: what a call covers that is on the screen;
* `readOn_of_beside`: writings beside one another can all be read, whatever they are written over.
-/

import SpaceInvaders.Video.Display

namespace SpaceInvaders

/-- A text on the screen: letters, or the characters of a number. -/
structure Writing where
  digits : Bool
  text : List UInt8
  x : Int
  y : Int
deriving DecidableEq

namespace Writing

open Text BackBuffer Display

/-- The image of a character. -/
def glyph (writing : Writing) (char : UInt8) : Option XpmMap :=
  if writing.digits then digitXpm ((char.toNat : Int) - 48) else letterXpm char

/-- The calls that write it. -/
def calls (writing : Writing) : List PrintXpm :=
  if writing.digits then drawDigits writing.text writing.x writing.y
  else drawText writing.text writing.x writing.y

/-- Its right end, behind the space of its last character. -/
def right (writing : Writing) : Int := writing.x + calculateTextWidth writing.text

/-- The cells are on the screen. -/
structure OnScreen (mode : ModeInfo) (writing : Writing) : Prop where
  left : 0 ≤ writing.x
  right : writing.right ≤ mode.width
  top : 0 ≤ writing.y
  bottom : writing.y + 35 ≤ mode.height

/-- The cells of two writings are apart. -/
def Beside (first second : Writing) : Prop :=
  first.y + 35 ≤ second.y ∨ second.y + 35 ≤ first.y ∨ first.right ≤ second.x ∨ second.right ≤ first.x

instance : Std.Symm Beside where
  symm first second beside := by
    unfold Beside at beside ⊢
    omega

/-- A pixel of the cell of a character. -/
def place (writing : Writing) (i dx dy : Nat) : Pixel :=
  (UInt16.ofInt (writing.x + charSpacing * i + dx), UInt16.ofInt (writing.y + dy))

/-- Every cell with a glyph shows the glyph, and every other cell the ground. -/
def ReadOn (images : XpmMap → XpmImage) (mode : VbeModeInfo) (ground shown : Pixel → List UInt8)
    (writing : Writing) : Prop :=
  ∀ (i : Nat) (char : UInt8), writing.text[i]? = some char → ∀ dx < 20, ∀ dy < 35,
    shown (writing.place i dx dy) =
      ((writing.glyph char).map fun xpm => colorBytes mode ((images xpm).colour dx dy)).getD
        (ground (writing.place i dx dy))

/-! ### Its calls -/

theorem drawNumber_eq (number x y : Int) :
    drawNumber number x y = drawDigits (Decimal.integer number) x y := by
  unfold drawNumber
  split
  · rename_i zero
    rw [zero]
    rfl
  · rfl

theorem drawText_cons (char : UInt8) (text : List UInt8) (x y : Int) :
    drawText (char :: text) x y = drawLetter char x y ++ drawText text (x + charSpacing) y := by
  rw [drawText]
  split
  · rename_i blank
    rw [blank]
    rfl
  · rfl

theorem mem_drawLetter {char : UInt8} {x y : Int} {call : PrintXpm} :
    call ∈ drawLetter char x y ↔ letterXpm char = some call.xpm ∧ call.x = x ∧ call.y = y := by
  obtain ⟨xpm, x', y'⟩ := call
  simp [drawLetter, eq_comm]

theorem mem_drawDigit {digit : Int} {x y : Int} {call : PrintXpm} :
    call ∈ drawDigit digit x y ↔ digitXpm digit = some call.xpm ∧ call.x = x ∧ call.y = y := by
  obtain ⟨xpm, x', y'⟩ := call
  simp [drawDigit, eq_comm]

/-- Moving on by one character. -/
theorem exists_cons {char : UInt8} {text : List UInt8} {x : Int} {holds : UInt8 → Prop}
    {place : Int} :
    (∃ (i : Nat) (other : UInt8), (char :: text)[i]? = some other ∧ holds other ∧ place = x + charSpacing * i) ↔
      (holds char ∧ place = x) ∨
        ∃ (i : Nat) (other : UInt8), text[i]? = some other ∧ holds other ∧
          place = x + charSpacing + charSpacing * i := by
  constructor
  · rintro ⟨i, other, at', keeps, rfl⟩
    cases i with
    | zero =>
      rw [List.getElem?_cons_zero, Option.some.injEq] at at'
      subst at'
      exact .inl ⟨keeps, by simp⟩
    | succ i =>
      rw [List.getElem?_cons_succ] at at'
      refine .inr ⟨i, other, at', keeps, ?_⟩
      push_cast
      ring
  · rintro (⟨keeps, rfl⟩ | ⟨i, other, at', keeps, rfl⟩)
    · exact ⟨0, char, List.getElem?_cons_zero, keeps, by simp⟩
    · refine ⟨i + 1, other, ?_, keeps, ?_⟩
      · rw [List.getElem?_cons_succ]
        exact at'
      · push_cast
        ring

theorem mem_drawText {text : List UInt8} {x y : Int} {call : PrintXpm} :
    call ∈ drawText text x y ↔
      (∃ (i : Nat) (char : UInt8), text[i]? = some char ∧ letterXpm char = some call.xpm ∧
        call.x = x + charSpacing * i) ∧ call.y = y := by
  induction text generalizing x with
  | nil => simp [drawText]
  | cons char text ih =>
    rw [drawText_cons, List.mem_append, mem_drawLetter, ih, exists_cons, or_and_right, and_assoc]

theorem mem_drawDigits {text : List UInt8} {x y : Int} {call : PrintXpm} :
    call ∈ drawDigits text x y ↔
      (∃ (i : Nat) (char : UInt8), text[i]? = some char ∧ digitXpm ((char.toNat : Int) - 48) = some call.xpm ∧
        call.x = x + charSpacing * i) ∧ call.y = y := by
  induction text generalizing x with
  | nil => simp [drawDigits]
  | cons char text ih =>
    rw [drawDigits, List.mem_append, mem_drawDigit, ih,
      @exists_cons char text x (fun char => digitXpm ((char.toNat : Int) - 48) = some call.xpm),
      or_and_right, and_assoc]

/-- **A writing's calls**: one for each character that has a glyph, in the character's cell. -/
theorem mem_calls {writing : Writing} {call : PrintXpm} :
    call ∈ writing.calls ↔
      (∃ (i : Nat) (char : UInt8), writing.text[i]? = some char ∧ writing.glyph char = some call.xpm ∧
        call.x = writing.x + charSpacing * i) ∧ call.y = writing.y := by
  unfold calls glyph
  cases writing.digits
  · exact mem_drawText
  · exact mem_drawDigits

theorem glyph_size {writing : Writing} {char : UInt8} {xpm : XpmMap}
    (drawn : writing.glyph char = some xpm) : xpm.size = ⟨20, 35⟩ := by
  unfold glyph digitXpm letterXpm at drawn
  split at drawn
  · split at drawn
    · cases drawn
      rfl
    · cases drawn
  · split at drawn
    · cases drawn
      rfl
    split at drawn
    · cases drawn
      rfl
    · cases drawn

/-! ### Reading -/

/-- The width of a text, in numbers. -/
theorem right_eq (writing : Writing) : writing.right = writing.x + 22 * writing.text.length := by
  unfold right calculateTextWidth charSpacing
  ring

/-- Where a pixel of a cell is. -/
theorem place_toNat {mode : ModeInfo} {writing : Writing} (inside : writing.OnScreen mode) {i : Nat}
    (within : i < writing.text.length) {dx dy : Nat} (narrow : dx < 20) (low : dy < 35) :
    ((writing.place i dx dy).1.toNat : Int) = writing.x + 22 * i + dx ∧
      ((writing.place i dx dy).2.toNat : Int) = writing.y + dy := by
  obtain ⟨left, right, top, bottom⟩ := inside
  have wide := mode.width_bounds
  have high := mode.height_bounds
  rw [right_eq] at right
  have spacing : charSpacing = 22 := rfl
  rw [place, spacing, ofInt_toNat, ofInt_toNat, u16_of_range, u16_of_range]
  · exact ⟨rfl, rfl⟩
  all_goals omega

/-- What a call of a writing covers. -/
theorem layer_of_drawn {images : XpmMap → XpmImage} {mode : VbeModeInfo} (sized : Sized images)
    {writing : Writing} (inside : writing.OnScreen mode.toModeInfo) {call : PrintXpm}
    (drawn : call ∈ writing.calls) {pixel : Pixel} (onScreen : OnMode mode pixel) :
    layer images mode call pixel =
      if call.x ≤ pixel.1.toNat ∧ (pixel.1.toNat : Int) < call.x + 20 ∧
          call.y ≤ pixel.2.toNat ∧ (pixel.2.toNat : Int) < call.y + 35 then
        some (colorBytes mode ((images call.xpm).colour (pixel.1.toNat - call.x.toNat)
          (pixel.2.toNat - call.y.toNat)))
      else none := by
  obtain ⟨⟨i, char, here, glyph, x⟩, y⟩ := mem_calls.mp drawn
  have within := (List.getElem?_eq_some_iff.mp here).1
  have width : call.xpm.size.width = 20 := by rw [glyph_size glyph]
  have height : call.xpm.size.height = 35 := by rw [glyph_size glyph]
  have spacing : charSpacing = 22 := rfl
  obtain ⟨left, right, top, bottom⟩ := inside
  rw [right_eq] at right
  rw [spacing] at x
  rw [layer_of_fits sized (by omega) (by omega) (by omega) (by omega) onScreen, width, height]
  rfl

/-- **Writings beside one another can all be read**, over whatever they are written. -/
theorem readOn_of_beside {images : XpmMap → XpmImage} {mode : VbeModeInfo} (sized : Sized images)
    {writings : List Writing} (inside : ∀ writing ∈ writings, writing.OnScreen mode.toModeInfo)
    (beside : writings.Pairwise Beside) {buf : Memory} {ground : List PrintXpm}
    (shows : ShowsPicture images mode buf (ground ++ writings.flatMap calls)) :
    ∀ writing ∈ writings,
      writing.ReadOn images mode (picture images mode ground) (readPixel mode buf) := by
  intro writing member i char here dx narrow dy low
  have within := (List.getElem?_eq_some_iff.mp here).1
  have all := inside writing member
  obtain ⟨column, row⟩ := place_toNat all within narrow low
  generalize writing.place i dx dy = pixel at column row ⊢
  obtain ⟨left, right, top, bottom⟩ := all
  rw [right_eq] at right
  have spacing : charSpacing = 22 := rfl
  have onScreen : OnMode mode pixel := by
    rw [OnMode, accepts_iff]
    have width : (mode.width : Int) = mode.XResolution.toNat := rfl
    have height : (mode.height : Int) = mode.YResolution.toNat := rfl
    omega
  -- the cell is covered by the glyph of its character only
  have only : ∀ call ∈ writings.flatMap calls, layer images mode call pixel = none ∨
      writing.glyph char = some call.xpm ∧
        layer images mode call pixel = some (colorBytes mode ((images call.xpm).colour dx dy)) := by
    intro call painted
    obtain ⟨other, member', drawn⟩ := List.mem_flatMap.mp painted
    rw [layer_of_drawn sized (inside other member') drawn onScreen]
    split
    · rename_i covered
      obtain ⟨⟨j, char', there, glyph, x⟩, y⟩ := mem_calls.mp drawn
      have within' := (List.getElem?_eq_some_iff.mp there).1
      rw [spacing] at x
      by_cases same : other = writing
      · subst same
        have index : j = i := by omega
        subst index
        rw [here, Option.some.injEq] at there
        subst there
        have offsets : pixel.1.toNat - call.x.toNat = dx ∧ pixel.2.toNat - call.y.toNat = dy := by omega
        rw [offsets.1, offsets.2]
        exact .inr ⟨glyph, rfl⟩
      · have apart := beside.forall member' member same
        unfold Beside at apart
        rw [right_eq, right_eq] at apart
        omega
    · exact .inl rfl
  rw [shows pixel onScreen, picture, List.map_append, Painter.paint_append]
  cases glyph : writing.glyph char with
  | none =>
    refine Painter.paint_of_uncovered fun covering painted => ?_
    obtain ⟨call, drawn, rfl⟩ := List.mem_map.mp painted
    refine (only call drawn).resolve_right fun covers => ?_
    rw [glyph] at covers
    cases covers.1
  | some xpm =>
    have drawn : (⟨xpm, writing.x + charSpacing * i, writing.y⟩ : PrintXpm) ∈ writing.calls :=
      mem_calls.mpr ⟨⟨i, char, here, glyph, rfl⟩, rfl⟩
    have painted := List.mem_flatMap.mpr ⟨writing, member, drawn⟩
    have covers : layer images mode ⟨xpm, writing.x + charSpacing * i, writing.y⟩ pixel ≠ none := by
      rw [layer_of_drawn sized (inside writing member) drawn onScreen, if_pos]
      · exact Option.some_ne_none _
      · rw [spacing]
        simp only
        omega
    refine Painter.paint_of_agree (List.mem_map_of_mem painted)
      ((only _ painted).resolve_left covers).2 fun covering painted => ?_
    obtain ⟨call, drawn, rfl⟩ := List.mem_map.mp painted
    refine (only call drawn).imp_right fun covers => ?_
    rw [glyph, Option.some.injEq] at covers
    rw [covers.2, ← covers.1]
    rfl

/-! ### Lines -/

/-- Writings of one height, one behind the other between two columns. -/
def InLine (y left right : Int) : List Writing → Prop
  | [] => left ≤ right
  | writing :: rest => writing.y = y ∧ left ≤ writing.x ∧ InLine y writing.right right rest

theorem left_le_right (writing : Writing) : writing.x ≤ writing.right := by
  rw [right_eq]
  omega

namespace InLine

variable {y left middle right : Int} {first second : List Writing}

theorem left_le (line : InLine y left right first) : left ≤ right := by
  induction first generalizing left with
  | nil => exact line
  | cons writing rest ih => exact line.2.1.trans (writing.left_le_right.trans (ih line.2.2))

theorem append (line : InLine y left middle first) (next : InLine y middle right second) :
    InLine y left right (first ++ second) := by
  induction first generalizing left with
  | nil =>
    cases second with
    | nil => exact le_trans line next
    | cons writing rest => exact ⟨next.1, le_trans line next.2.1, next.2.2⟩
  | cons writing rest ih => exact ⟨line.1, line.2.1, ih line.2.2⟩

theorem within (line : InLine y left right first) {writing : Writing} (member : writing ∈ first) :
    writing.y = y ∧ left ≤ writing.x ∧ writing.right ≤ right := by
  induction first generalizing left with
  | nil => cases member
  | cons head rest ih =>
    obtain ⟨height, start, more⟩ := line
    rcases List.mem_cons.mp member with rfl | later
    · exact ⟨height, start, more.left_le⟩
    · obtain ⟨height', behind, ends⟩ := ih more later
      exact ⟨height', start.trans (head.left_le_right.trans behind), ends⟩

theorem beside (line : InLine y left right first) : first.Pairwise Beside := by
  induction first generalizing left with
  | nil => exact .nil
  | cons head rest ih =>
    obtain ⟨height, start, more⟩ := line
    exact .cons (fun writing later => .inr (.inr (.inl (more.within later).2.1))) (ih more)

end InLine

instance : ∀ (y left right : Int) (writings : List Writing), Decidable (InLine y left right writings)
  | _, left, right, [] => inferInstanceAs (Decidable (left ≤ right))
  | y, left, right, writing :: rest =>
    haveI := instDecidableInLine y writing.right right rest
    inferInstanceAs (Decidable (writing.y = y ∧ left ≤ writing.x ∧ _))

/-! ### Blocks -/

/-- Writings beside one another, between two rows of a screen. -/
structure Block (mode : ModeInfo) (top bottom : Int) (writings : List Writing) : Prop where
  within : ∀ writing ∈ writings, 0 ≤ writing.x ∧ writing.right ≤ mode.width ∧
    top ≤ writing.y ∧ writing.y + 35 ≤ bottom
  beside : writings.Pairwise Beside

namespace Block

variable {mode : ModeInfo} {top middle bottom : Int} {first second : List Writing}

/-- A line with the space below it. -/
theorem of_line {y left right : Int} (line : InLine y left right first) (start : 0 ≤ left)
    (ends : right ≤ mode.width) (above : top ≤ y) (below : y + 35 ≤ bottom) :
    Block mode top bottom first := by
  refine ⟨fun writing member => ?_, line.beside⟩
  obtain ⟨height, behind, before⟩ := line.within member
  exact ⟨start.trans behind, before.trans ends, height ▸ above, height ▸ below⟩

theorem mono {low : Int} (block : Block mode top middle first) (further : middle ≤ low) :
    Block mode top low first := by
  refine ⟨fun writing member => ?_, block.beside⟩
  obtain ⟨left, right, above, below⟩ := block.within writing member
  exact ⟨left, right, above, below.trans further⟩

theorem append (upper : Block mode top middle first) (lower : Block mode middle bottom second)
    (down : top ≤ middle) (further : middle ≤ bottom) : Block mode top bottom (first ++ second) := by
  refine ⟨fun writing member => ?_, List.pairwise_append.mpr ⟨upper.beside, lower.beside, ?_⟩⟩
  · rcases List.mem_append.mp member with here | there
    · exact (upper.mono further).within writing here
    · obtain ⟨left, right, above, below⟩ := lower.within writing there
      exact ⟨left, right, down.trans above, below⟩
  · intro writing here other there
    exact .inl ((upper.within writing here).2.2.2.trans (lower.within other there).2.2.1)

/-- Blocks of one height, one below the other. -/
theorem stack {height : Int} (tall : 0 ≤ height) {count : Nat} {block : Nat → List Writing}
    (each : ∀ i < count, Block mode (top + height * i) (top + height * (i + 1)) (block i)) :
    Block mode top (top + height * count) ((List.range count).flatMap block) := by
  induction count with
  | zero => exact ⟨fun writing member => (nomatch member), .nil⟩
  | succ count ih =>
    have before := ih fun i less => each i (Nat.lt_succ_of_lt less)
    have last := each count (Nat.lt_succ_self count)
    rw [List.range_succ, List.flatMap_append, List.flatMap_singleton]
    push_cast
    refine before.append last ?_ ?_
    · exact le_add_of_nonneg_right (mul_nonneg tall (Int.natCast_nonneg _))
    · rw [mul_add, ← add_assoc]
      exact le_add_of_nonneg_right (by rwa [mul_one])

theorem onScreen (block : Block mode top bottom first) (above : 0 ≤ top) (below : bottom ≤ mode.height) :
    ∀ writing ∈ first, writing.OnScreen mode := by
  intro writing member
  obtain ⟨left, right, down, up⟩ := block.within writing member
  exact ⟨left, right, above.trans down, up.trans below⟩

end Block

end Writing

end SpaceInvaders
