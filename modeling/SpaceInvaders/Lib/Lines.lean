/-
**Reading a stream through a line buffer of fixed room.**

`line newline room input` is what one buffered read takes: up to and including the first `newline`,
and never more than `room` items. `windows` are the successive reads of a whole stream.

* `windows_append`: a stream that ends at a line end can be cut off: the reads of a concatenation
  are the reads of its parts;
* `windows_of_fits`: a line that fits the buffer is one read;
* `windows_unfinished`: where a stream does not end at a line end, what is appended to it goes on in its
  last read (`windows_full`, `windows_long`).
-/

import Mathlib.Data.List.Basic

set_option linter.unusedSectionVars false

namespace Lines

variable {α : Type*} [DecidableEq α] {newline : α}

/-- One read: the items taken and the items left. -/
def line (newline : α) : (room : Nat) → List α → List α × List α
  | 0, input => ([], input)
  | _ + 1, [] => ([], [])
  | room + 1, item :: input =>
    if item = newline then ([item], input)
    else
      let next := line newline room input
      (item :: next.1, next.2)

theorem line_append_line (room : Nat) (input : List α) :
    (line newline room input).1 ++ (line newline room input).2 = input := by
  induction room generalizing input with
  | zero => rfl
  | succ room ih =>
    cases input with
    | nil => rfl
    | cons item input =>
      unfold line
      by_cases ends : item = newline
      · rw [if_pos ends]
        rfl
      · rw [if_neg ends, List.cons_append, ih]

/-- A read from a non-empty stream leaves less of it. -/
theorem line_rest_length_lt {room : Nat} (positive : 0 < room) {input : List α} (more : input ≠ []) :
    (line newline room input).2.length < input.length := by
  obtain ⟨room, rfl⟩ := Nat.exists_eq_succ_of_ne_zero (Nat.pos_iff_ne_zero.mp positive)
  obtain ⟨item, input, rfl⟩ := List.exists_cons_of_ne_nil more
  unfold line
  by_cases ends : item = newline
  · rw [if_pos ends]
    simp
  · rw [if_neg ends, List.length_cons]
    have whole : (line newline room input).1.length + (line newline room input).2.length =
        input.length := by rw [← List.length_append, line_append_line]
    show (line newline room input).2.length < _
    omega

/-- Reads while the stream lasts, at most `fuel` of them. -/
def windowsFuel (newline : α) (room : Nat) : (fuel : Nat) → List α → List (List α)
  | 0, _ => []
  | _ + 1, [] => []
  | fuel + 1, item :: input =>
    (line newline room (item :: input)).1 ::
      windowsFuel newline room fuel (line newline room (item :: input)).2

/-- The successive reads of a stream. -/
def windows (newline : α) (room : Nat) (input : List α) : List (List α) :=
  windowsFuel newline room input.length input

@[simp] theorem windows_nil (room : Nat) : windows newline room [] = [] := rfl

theorem windowsFuel_eq {room : Nat} (positive : 0 < room) (fuel : Nat) (input : List α)
    (enough : input.length ≤ fuel) :
    windowsFuel newline room fuel input = windows newline room input := by
  induction fuel using Nat.strongRecOn generalizing input with
  | ind fuel ih =>
    cases input with
    | nil => cases fuel <;> rfl
    | cons item input =>
      obtain ⟨fuel, rfl⟩ := Nat.exists_eq_succ_of_ne_zero
        (show fuel ≠ 0 by rw [List.length_cons] at enough; omega)
      have less : (line newline room (item :: input)).2.length < (item :: input).length :=
        line_rest_length_lt positive (List.cons_ne_nil item input)
      rw [List.length_cons] at less enough
      unfold windows
      rw [List.length_cons]
      unfold windowsFuel
      rw [ih fuel (Nat.lt_succ_self fuel) _ (by omega), ih input.length (by omega) _ (by omega)]

/-- The first read, then the reads of what it leaves. -/
theorem windows_of_ne_nil {room : Nat} (positive : 0 < room) {input : List α} (more : input ≠ []) :
    windows newline room input =
      (line newline room input).1 :: windows newline room (line newline room input).2 := by
  obtain ⟨item, input, rfl⟩ := List.exists_cons_of_ne_nil more
  have less : (line newline room (item :: input)).2.length < (item :: input).length :=
    line_rest_length_lt positive more
  rw [List.length_cons] at less
  conv_lhs => unfold windows
  rw [List.length_cons]
  unfold windowsFuel
  rw [windowsFuel_eq positive _ _ (by omega)]

/-! ### Streams that end at a line end -/

/-- The stream is empty or its last item ends a line. -/
def Ends (newline : α) (input : List α) : Prop := input = [] ∨ ∃ body, input = body ++ [newline]

theorem ends_snoc (body : List α) : Ends newline (body ++ [newline]) := .inr ⟨body, rfl⟩

theorem ends_of_cons {item : α} {input : List α} (ends : Ends newline (item :: input))
    (inside : item ≠ newline) : input ≠ [] ∧ Ends newline input := by
  rcases ends with empty | ⟨body, split⟩
  · cases empty
  · cases body with
    | nil =>
      cases split
      exact absurd rfl inside
    | cons first body =>
      rw [List.cons_append, List.cons.injEq] at split
      obtain ⟨rfl, rfl⟩ := split
      exact ⟨by simp, ends_snoc body⟩

theorem Ends.append {first second : List α} (firstEnds : Ends newline first)
    (secondEnds : Ends newline second) : Ends newline (first ++ second) := by
  rcases secondEnds with rfl | ⟨body, rfl⟩
  · rwa [List.append_nil]
  · rw [← List.append_assoc]
    exact ends_snoc _

/-- A read stays inside a non-empty stream that ends at a line end. -/
theorem line_append {room : Nat} {first : List α} (more : first ≠ []) (ends : Ends newline first)
    (second : List α) :
    line newline room (first ++ second) =
        ((line newline room first).1, (line newline room first).2 ++ second) ∧
      Ends newline (line newline room first).2 := by
  induction room generalizing first with
  | zero => exact ⟨rfl, ends⟩
  | succ room ih =>
    obtain ⟨item, input, rfl⟩ := List.exists_cons_of_ne_nil more
    rw [List.cons_append]
    unfold line
    by_cases last : item = newline
    · rw [if_pos last, if_pos last]
      refine ⟨rfl, ?_⟩
      rcases ends with empty | ⟨body, split⟩
      · cases empty
      · cases body with
        | nil =>
          cases split
          exact .inl rfl
        | cons first body =>
          rw [List.cons_append, List.cons.injEq] at split
          rw [split.2]
          exact ends_snoc body
    · rw [if_neg last, if_neg last]
      obtain ⟨moreRest, endsRest⟩ := ends_of_cons ends last
      obtain ⟨same, endsAfter⟩ := ih moreRest endsRest
      exact ⟨by rw [same], endsAfter⟩

/-- **The reads of a concatenation**, when the first part ends at a line end. -/
theorem windows_append {room : Nat} (positive : 0 < room) {first : List α}
    (ends : Ends newline first) (second : List α) :
    windows newline room (first ++ second) =
      windows newline room first ++ windows newline room second := by
  induction size : first.length using Nat.strongRecOn generalizing first with
  | ind size ih =>
    by_cases empty : first = []
    · subst empty
      simp
    obtain ⟨same, endsAfter⟩ : _ ∧ Ends newline (line newline room first).2 :=
      line_append empty ends second
    have more : first ++ second ≠ [] := by simp [empty]
    rw [windows_of_ne_nil positive more, windows_of_ne_nil positive empty, same,
      ih _ (size ▸ line_rest_length_lt positive empty) endsAfter rfl, List.cons_append]

/-- A line that fits the buffer is one read. -/
theorem line_of_fits {room : Nat} {body : List α} (inside : newline ∉ body)
    (fits : body.length < room) : line newline room (body ++ [newline]) = (body ++ [newline], []) := by
  induction body generalizing room with
  | nil =>
    obtain ⟨room, rfl⟩ := Nat.exists_eq_succ_of_ne_zero (Nat.ne_of_gt fits)
    simp [line]
  | cons item body ih =>
    obtain ⟨room, rfl⟩ := Nat.exists_eq_succ_of_ne_zero (Nat.ne_of_gt (Nat.zero_lt_of_lt fits))
    rw [List.mem_cons, not_or] at inside
    rw [List.length_cons] at fits
    rw [List.cons_append]
    unfold line
    rw [if_neg (fun same => inside.1 same.symm), ih inside.2 (by omega)]

theorem windows_of_fits {room : Nat} {body : List α} (inside : newline ∉ body)
    (fits : body.length < room) : windows newline room (body ++ [newline]) = [body ++ [newline]] := by
  rw [windows_of_ne_nil (Nat.zero_lt_of_lt fits) (by simp), line_of_fits inside fits, windows_nil]

theorem ends_flatten (bodies : List (List α)) :
    Ends newline (bodies.map (· ++ [newline])).flatten := by
  induction bodies with
  | nil => exact .inl rfl
  | cons body bodies ih => exact (ends_snoc body).append ih

/-! ### Streams that end within a line -/

/-- A line that is longer than the buffer fills it. -/
theorem line_of_long {room : Nat} {body : List α} (inside : newline ∉ body) (long : room ≤ body.length)
    (second : List α) :
    line newline room (body ++ second) = (body.take room, body.drop room ++ second) := by
  induction body generalizing room with
  | nil =>
    obtain rfl : room = 0 := Nat.le_zero.mp long
    rfl
  | cons item body ih =>
    cases room with
    | zero => rfl
    | succ room =>
      rw [List.mem_cons, not_or] at inside
      rw [List.length_cons] at long
      rw [List.cons_append]
      unfold line
      rw [if_neg (fun same => inside.1 same.symm), ih inside.2 (by omega)]
      rfl

/-- A read that leaves something is the same with more behind it. -/
theorem line_append_of_rest {room : Nat} {first : List α} (rest : (line newline room first).2 ≠ [])
    (second : List α) :
    line newline room (first ++ second) =
      ((line newline room first).1, (line newline room first).2 ++ second) := by
  induction room generalizing first with
  | zero => rfl
  | succ room ih =>
    cases first with
    | nil => exact absurd rfl rest
    | cons item first =>
      rw [List.cons_append]
      unfold line at rest ⊢
      by_cases ends : item = newline
      · rw [if_pos ends, if_pos ends]
      · rw [if_neg ends] at rest
        rw [if_neg ends, if_neg ends, ih rest]

/-- A read that takes everything, and no line end, has room for it. -/
theorem unfinished_of_line {room : Nat} {input : List α} (all : (line newline room input).2 = [])
    (unfinished : ¬ Ends newline input) : newline ∉ input ∧ input.length ≤ room := by
  induction room generalizing input with
  | zero => exact absurd (.inl all) unfinished
  | succ room ih =>
    cases input with
    | nil => exact absurd (.inl rfl) unfinished
    | cons item input =>
      unfold line at all
      by_cases ends : item = newline
      · rw [if_pos ends] at all
        change input = [] at all
        rw [all, ends] at unfinished
        exact absurd (ends_snoc []) unfinished
      · rw [if_neg ends] at all
        have first : newline ∉ [item] := fun member => ends (List.mem_singleton.mp member).symm
        by_cases last : input = []
        · rw [last]
          exact ⟨first, Nat.succ_le_succ (Nat.zero_le room)⟩
        have goesOn : ¬ Ends newline input := by
          rintro (empty | ⟨body, rfl⟩)
          · exact last empty
          · exact unfinished (ends_snoc (item :: body))
        obtain ⟨inside, fits⟩ := ih all goesOn
        refine ⟨fun member => ?_, Nat.succ_le_succ fits⟩
        exact (List.mem_cons.mp member).elim (fun same => ends same.symm) inside

/-- **The last read of a stream that does not end at a line end** has no line end, and takes up what is
appended. -/
theorem windows_unfinished {room : Nat} (positive : 0 < room) {input : List α}
    (unfinished : ¬ Ends newline input) :
    ∃ front last, windows newline room input = front ++ [last] ∧ last ≠ [] ∧ newline ∉ last ∧
      last.length ≤ room ∧
      ∀ second, windows newline room (input ++ second) =
        front ++ windows newline room (last ++ second) := by
  induction size : input.length using Nat.strongRecOn generalizing input with
  | ind size ih =>
    have some_input : input ≠ [] := fun empty => unfinished (.inl empty)
    have whole : (line newline room input).1 ++ (line newline room input).2 = input :=
      line_append_line room input
    have reads : windows newline room input =
        (line newline room input).1 :: windows newline room (line newline room input).2 :=
      windows_of_ne_nil positive some_input
    by_cases all : (line newline room input).2 = []
    · obtain ⟨inside, fits⟩ := unfinished_of_line all unfinished
      rw [all, List.append_nil] at whole
      rw [all, windows_nil, whole] at reads
      exact ⟨[], input, reads, some_input, inside, fits, fun _ => rfl⟩
    · have goesOn : ¬ Ends newline (line newline room input).2 := by
        rintro (empty | ⟨body, ends⟩)
        · exact all empty
        · refine unfinished ?_
          rw [← whole, ends, ← List.append_assoc]
          exact ends_snoc _
      obtain ⟨front, last, split, some_last, inside, fits, appended⟩ :=
        ih _ (size ▸ line_rest_length_lt positive some_input) goesOn rfl
      refine ⟨(line newline room input).1 :: front, last, ?_, some_last, inside, fits, fun second => ?_⟩
      · rw [reads, split]
        rfl
      · rw [windows_of_ne_nil positive (List.append_ne_nil_of_left_ne_nil some_input second),
          line_append_of_rest all second, appended second]
        rfl

/-- An unfinished read that fills the buffer stays as it is. -/
theorem windows_full {room : Nat} (positive : 0 < room) {last : List α} (inside : newline ∉ last)
    (full : last.length = room) (second : List α) :
    windows newline room (last ++ second) = last :: windows newline room second := by
  have some_last : last ≠ [] := fun empty => by
    rw [empty] at full
    exact absurd full (Nat.ne_of_lt positive)
  rw [windows_of_ne_nil positive (List.append_ne_nil_of_left_ne_nil some_last second),
    line_of_long inside (Nat.le_of_eq full.symm), List.take_of_length_le (Nat.le_of_eq full),
    List.drop_of_length_le (Nat.le_of_eq full), List.nil_append]

/-- A line of less than two buffers takes two reads, the second of them empty when it fits one. -/
theorem windows_long {room : Nat} (positive : 0 < room) {body : List α} (inside : newline ∉ body)
    (short : body.length < 2 * room) :
    ∃ rest, windows newline room (body ++ [newline]) = (body ++ [newline]).take room :: rest ∧
      ((rest = [] ∧ (body ++ [newline]).drop room = []) ∨ rest = [(body ++ [newline]).drop room]) := by
  rcases Nat.lt_or_ge body.length room with fits | long
  · have size : (body ++ [newline]).length ≤ room := by
      rw [List.length_append, List.length_singleton]
      exact fits
    refine ⟨[], ?_, .inl ⟨rfl, List.drop_of_length_le size⟩⟩
    rw [windows_of_fits inside fits, List.take_of_length_le size]
  · have rest : newline ∉ body.drop room := fun member => inside (List.mem_of_mem_drop member)
    refine ⟨_, ?_, .inr rfl⟩
    rw [windows_of_ne_nil positive (List.append_ne_nil_of_right_ne_nil _ (List.cons_ne_nil _ _)),
      line_of_long inside long, List.take_append_of_le_length long, List.drop_append_of_le_length long]
    rw [windows_of_fits rest (by rw [List.length_drop]; omega)]

end Lines
