/-
**Streams in pieces, each with the position it begins at.**

`physical newline input` are the lines of a stream, however long, each with its newline; `located` pairs
the pieces of a cut with the positions they begin at, and so tells two equal pieces of a stream apart.

* `windows_eq_flatMap`: the buffered reads of a stream are those of its lines, one line after the other;
* `windows_of_isLine`: the reads of a line are what fits of it, and the reads of the rest;
* `take_append_iff`: sequences that keep two kinds of items apart agree up to a length when each kind does.
-/

import SpaceInvaders.Lib.Lines

namespace Lines

section Cuts

variable {α : Type*} [DecidableEq α] {newline : α}

/-! ### Lines -/

/-- The lines of a stream; the last one need not end. -/
def physical (newline : α) : List α → List (List α)
  | [] => []
  | item :: input =>
    if item = newline then [item] :: physical newline input
    else
      match physical newline input with
      | [] => [[item]]
      | first :: others => (item :: first) :: others

theorem physical_line {body : List α} (inside : newline ∉ body) (rest : List α) :
    physical newline (body ++ newline :: rest) = (body ++ [newline]) :: physical newline rest := by
  induction body with
  | nil => simp [physical]
  | cons item body ih =>
    rw [List.mem_cons, not_or] at inside
    rw [List.cons_append, physical, if_neg fun same => inside.1 same.symm, ih inside.2]
    rfl

theorem physical_last {body : List α} (inside : newline ∉ body) (more : body ≠ []) :
    physical newline body = [body] := by
  induction body with
  | nil => exact absurd rfl more
  | cons item body ih =>
    rw [List.mem_cons, not_or] at inside
    rw [physical, if_neg fun same => inside.1 same.symm]
    by_cases last : body = []
    · rw [last]
      rfl
    · rw [ih inside.2 last]

/-- Induction on the lines of a stream. -/
theorem lines_induction (newline : α) {motive : List α → Prop} (nil : motive [])
    (last : ∀ body, newline ∉ body → body ≠ [] → motive body)
    (line : ∀ body rest, newline ∉ body → motive rest → motive (body ++ newline :: rest))
    (input : List α) : motive input := by
  induction size : input.length using Nat.strongRecOn generalizing input with
  | ind size ih =>
    by_cases ends : newline ∈ input
    · obtain ⟨body, rest, rfl, inside⟩ := List.eq_append_cons_of_mem ends
      refine line body rest inside (ih rest.length ?_ rest rfl)
      rw [List.length_append, List.length_cons] at size
      omega
    · by_cases empty : input = []
      · rw [empty]
        exact nil
      · exact last input ends empty

/-- A line: it is not empty, and only its last item can be the newline. -/
def IsLine (newline : α) (line : List α) : Prop :=
  line ≠ [] ∧ (newline ∉ line ∨ ∃ body, newline ∉ body ∧ line = body ++ [newline])

theorem isLine_of_mem_physical {input : List α} :
    ∀ line ∈ physical newline input, IsLine newline line := by
  induction input using lines_induction newline with
  | nil => exact fun line member => absurd member List.not_mem_nil
  | last body inside more =>
    intro line member
    rw [physical_last inside more] at member
    rw [List.mem_singleton.mp member]
    exact ⟨more, .inl inside⟩
  | line body rest inside ih =>
    intro line member
    rw [physical_line inside] at member
    rcases List.mem_cons.mp member with rfl | later
    · exact ⟨List.append_ne_nil_of_right_ne_nil _ (List.cons_ne_nil _ _), .inr ⟨body, inside, rfl⟩⟩
    · exact ih line later

/-! ### Reads -/

theorem flatten_windows {room : Nat} (positive : 0 < room) (input : List α) :
    (windows newline room input).flatten = input := by
  induction size : input.length using Nat.strongRecOn generalizing input with
  | ind size ih =>
    by_cases empty : input = []
    · rw [empty]
      rfl
    · rw [windows_of_ne_nil positive empty, List.flatten_cons,
        ih _ (size ▸ line_rest_length_lt positive empty) _ rfl, line_append_line]

/-- No read is empty. -/
theorem ne_nil_of_mem_windows {room : Nat} (positive : 0 < room) (input : List α) :
    ∀ read ∈ windows newline room input, read ≠ [] := by
  induction size : input.length using Nat.strongRecOn generalizing input with
  | ind size ih =>
    by_cases empty : input = []
    · rw [empty]
      exact fun read member => absurd member List.not_mem_nil
    · have less : (line newline room input).2.length < input.length := line_rest_length_lt positive empty
      rw [windows_of_ne_nil positive empty]
      intro read member
      rcases List.mem_cons.mp member with rfl | later
      · intro nothing
        have whole : (line newline room input).1 ++ (line newline room input).2 = input :=
          line_append_line room input
        rw [nothing, List.nil_append] at whole
        rw [whole] at less
        exact absurd less (Nat.lt_irrefl _)
      · exact ih _ (size ▸ less) _ rfl read later

/-- **The reads of a stream** are those of its lines. -/
theorem windows_eq_flatMap {room : Nat} (positive : 0 < room) (input : List α) :
    windows newline room input = (physical newline input).flatMap (windows newline room) := by
  induction input using lines_induction newline with
  | nil => rfl
  | last body inside more => rw [physical_last inside more, List.flatMap_singleton]
  | line body rest inside ih =>
    have split : body ++ newline :: rest = body ++ [newline] ++ rest := by simp
    rw [physical_line inside, List.flatMap_cons, ← ih, split,
      windows_append positive (ends_snoc body)]

/-- The first read of a line takes what there is room for. -/
theorem line_of_isLine {input : List α} (isLine : IsLine newline input) (room : Nat) :
    line newline room input = (input.take room, input.drop room) := by
  rcases isLine.2 with inside | ⟨body, inside, rfl⟩
  · clear isLine
    induction input generalizing room with
    | nil => cases room <;> rfl
    | cons item input ih =>
      cases room with
      | zero => rfl
      | succ room =>
        rw [List.mem_cons, not_or] at inside
        rw [line, if_neg fun same => inside.1 same.symm, ih room inside.2]
        rfl
  · rcases Nat.lt_or_ge body.length room with fits | long
    · have size : (body ++ [newline]).length ≤ room := by
        rw [List.length_append, List.length_singleton]
        exact fits
      rw [line_of_fits inside fits, List.take_of_length_le size, List.drop_of_length_le size]
    · rw [line_of_long inside long, List.take_append_of_le_length long,
        List.drop_append_of_le_length long]

/-- The reads of a line. -/
theorem windows_of_isLine {room : Nat} (positive : 0 < room) {input : List α}
    (isLine : IsLine newline input) :
    windows newline room input = input.take room :: windows newline room (input.drop room) := by
  rw [windows_of_ne_nil positive isLine.1, line_of_isLine isLine]

end Cuts

/-! ### Positions -/

section Positions

variable {α : Type*}

/-- The pieces of a cut with their positions. -/
def located : (start : Nat) → List (List α) → List (Nat × List α)
  | _, [] => []
  | start, piece :: pieces => (start, piece) :: located (start + piece.length) pieces

theorem map_snd_located (start : Nat) (pieces : List (List α)) :
    (located start pieces).map Prod.snd = pieces := by
  induction pieces generalizing start with
  | nil => rfl
  | cons piece pieces ih => rw [located, List.map_cons, ih]

theorem located_append (start : Nat) (first second : List (List α)) :
    located start (first ++ second) =
      located start first ++ located (start + first.flatten.length) second := by
  induction first generalizing start with
  | nil => rfl
  | cons piece first ih =>
    rw [List.cons_append, located, located, ih, List.flatten_cons, List.length_append, Nat.add_assoc,
      List.cons_append]

/-- A piece begins inside the stream. -/
theorem located_bounds {pieces : List (List α)} (some_piece : ∀ piece ∈ pieces, piece ≠ [])
    (start : Nat) :
    ∀ piece ∈ located start pieces, start ≤ piece.1 ∧ piece.1 < start + pieces.flatten.length := by
  induction pieces generalizing start with
  | nil => exact fun piece member => absurd member List.not_mem_nil
  | cons first pieces ih =>
    intro piece member
    have positive : 0 < first.length :=
      List.length_pos_of_ne_nil (some_piece first List.mem_cons_self)
    rw [List.flatten_cons, List.length_append]
    rcases List.mem_cons.mp member with rfl | later
    · exact ⟨Nat.le_refl start, by show start < _; omega⟩
    · have bounds := ih (fun other inside => some_piece other (List.mem_cons_of_mem _ inside)) _ _ later
      omega

end Positions

/-! ### Two kinds of items -/

section Kinds

variable {β : Type*} {early : β → Bool}

/-- Items of the first kind stand before those of the second. -/
theorem filter_take_append {first second : List β} (inFirst : ∀ b ∈ first, early b = true)
    (inSecond : ∀ b ∈ second, early b = false) (count : Nat) :
    ((first ++ second).take count).filter early = first.take count ∧
      ((first ++ second).take count).filter (fun b => !early b) = second.take (count - first.length) := by
  have keptFirst : ∀ b ∈ first.take count, early b = true := fun b member =>
    inFirst b (List.mem_of_mem_take member)
  have keptSecond : ∀ b ∈ second.take (count - first.length), early b = false := fun b member =>
    inSecond b (List.mem_of_mem_take member)
  rw [List.take_append, List.filter_append, List.filter_append]
  refine ⟨?_, ?_⟩
  · rw [List.filter_eq_self.mpr keptFirst, List.filter_eq_nil_iff.mpr, List.append_nil]
    intro b member
    rw [keptSecond b member]
    exact Bool.false_ne_true
  · rw [List.filter_eq_nil_iff.mpr, List.nil_append, List.filter_eq_self.mpr]
    · intro b member
      rw [keptSecond b member]
      rfl
    · intro b member
      rw [keptFirst b member]
      exact Bool.false_ne_true

/-- **Agreement up to a length**, kind by kind. -/
theorem take_append_iff {first second first' second' : List β} (inFirst : ∀ b ∈ first, early b = true)
    (inSecond : ∀ b ∈ second, early b = false) (inFirst' : ∀ b ∈ first', early b = true)
    (inSecond' : ∀ b ∈ second', early b = false) (count : Nat) :
    (first ++ second).take count = (first' ++ second').take count ↔
      first.take count = first'.take count ∧
        second.take (count - first.length) = second'.take (count - first'.length) := by
  obtain ⟨front, back⟩ := filter_take_append inFirst inSecond count
  obtain ⟨front', back'⟩ := filter_take_append inFirst' inSecond' count
  constructor
  · intro same
    rw [← front, ← front', ← back, ← back', same]
    exact ⟨rfl, rfl⟩
  · rintro ⟨sameFirst, sameSecond⟩
    rw [List.take_append, List.take_append, sameFirst, sameSecond]

end Kinds

end Lines
