/-
**Loops that write cells until one is refused.**

`untilFailure body cells` runs a body over the cells and returns 1 at the first one whose body fails. A
`guarded` body writes the cells it accepts and fails at the others.

* `untilFailure_nested`: nested loops are one loop over the cells in their order;
* `untilFailure_congr`: bodies that agree up to the first refused cell give the same loop;
* `untilFailure_guarded`: a guarded loop writes the cells before the first refused one;
* `read_painted`, `read_untouched`: what is read behind a list of writes: the written value where the
  writes to a place agree, and the old one where there are none.
-/

import Mathlib.Data.List.Induction

namespace Painting

variable {Cell Cell' State : Type*}

/-! ### Loops -/

/-- A loop over the cells that returns 1 at the first failing body, and 0 behind the last cell. -/
def untilFailure (body : Cell → State → Int × State) : List Cell → State → Int × State
  | [], state => (0, state)
  | cell :: rest, state =>
    if (body cell state).1 ≠ 0 then (1, (body cell state).2)
    else untilFailure body rest (body cell state).2

/-- A body that fails ends the loop. -/
theorem untilFailure_failed {body : Cell → State → Int × State} {cell : Cell} {state : State}
    (failed : (body cell state).1 ≠ 0) (rest : List Cell) :
    untilFailure body (cell :: rest) state = (1, (body cell state).2) :=
  if_pos failed

/-- A body that does not fail is followed by the others. -/
theorem untilFailure_passed {body : Cell → State → Int × State} {cell : Cell} {state : State}
    (passed : (body cell state).1 = 0) (rest : List Cell) :
    untilFailure body (cell :: rest) state = untilFailure body rest (body cell state).2 :=
  if_neg (not_not.mpr passed)

/-- The loop returns 0 or 1. -/
theorem untilFailure_status (body : Cell → State → Int × State) (cells : List Cell) (state : State) :
    (untilFailure body cells state).1 = 0 ∨ (untilFailure body cells state).1 = 1 := by
  induction cells generalizing state with
  | nil => exact .inl rfl
  | cons cell rest ih =>
    by_cases passed : (body cell state).1 = 0
    · rw [untilFailure_passed passed]
      exact ih _
    · rw [untilFailure_failed passed]
      exact .inr rfl

theorem untilFailure_append (body : Cell → State → Int × State) (first second : List Cell)
    (state : State) :
    untilFailure body (first ++ second) state =
      if (untilFailure body first state).1 ≠ 0 then untilFailure body first state
      else untilFailure body second (untilFailure body first state).2 := by
  induction first generalizing state with
  | nil => rfl
  | cons cell rest ih =>
    by_cases passed : (body cell state).1 = 0
    · rw [List.cons_append, untilFailure_passed passed, untilFailure_passed passed, ih]
    · rw [List.cons_append, untilFailure_failed passed, untilFailure_failed passed]
      rfl

theorem untilFailure_map (body : Cell → State → Int × State) (cell : Cell' → Cell)
    (cells : List Cell') (state : State) :
    untilFailure body (cells.map cell) state =
      untilFailure (fun index => body (cell index)) cells state := by
  induction cells generalizing state with
  | nil => rfl
  | cons index rest ih => rw [List.map_cons, untilFailure, untilFailure, ih]

/-- Nested loops are one loop over the cells in their order. -/
theorem untilFailure_nested (body : Cell' → State → Int × State) (row : Cell → List Cell')
    (rows : List Cell) (state : State) :
    untilFailure (fun index => untilFailure body (row index)) rows state =
      untilFailure body (rows.flatMap row) state := by
  induction rows generalizing state with
  | nil => rfl
  | cons index rest ih =>
    rw [List.flatMap_cons, untilFailure_append, untilFailure, ih]
    rcases untilFailure_status body (row index) state with passed | failed
    · rw [if_neg (not_not.mpr passed), if_neg (not_not.mpr passed)]
    · have notPassed : (untilFailure body (row index) state).1 ≠ 0 := by rw [failed]; decide
      rw [if_pos notPassed, if_pos notPassed, ← failed]

/-- When the status of a body does not depend on the state, the loop returns 0 exactly when no body
fails. -/
theorem untilFailure_status_iff {body : Cell → State → Int × State} {passes : Cell → Prop}
    (status : ∀ cell state, (body cell state).1 = 0 ↔ passes cell) (cells : List Cell)
    (state : State) : (untilFailure body cells state).1 = 0 ↔ ∀ cell ∈ cells, passes cell := by
  induction cells generalizing state with
  | nil => exact iff_of_true rfl fun cell member => (nomatch member)
  | cons cell rest ih =>
    rw [List.forall_mem_cons, ← status cell state]
    by_cases passed : (body cell state).1 = 0
    · rw [untilFailure_passed passed, ih]
      exact (and_iff_right passed).symm
    · rw [untilFailure_failed passed]
      exact iff_of_false Int.one_ne_zero fun both => passed both.1

/-! ### Guarded bodies -/

/-- The body writes the cells it accepts, and fails at the others. -/
def guarded (accepts : Cell → Prop) [DecidablePred accepts] (write : Cell → State → State)
    (cell : Cell) (state : State) : Int × State :=
  if accepts cell then (0, write cell state) else (1, state)

/-- The writes of the cells, one behind the other. -/
def writeAll (write : Cell → State → State) (cells : List Cell) (state : State) : State :=
  cells.foldl (fun state cell => write cell state) state

variable {accepts : Cell → Prop} [DecidablePred accepts] {write : Cell → State → State}

theorem guarded_pos {cell : Cell} (accepted : accepts cell) (state : State) :
    guarded accepts write cell state = (0, write cell state) :=
  if_pos accepted

theorem guarded_neg {cell : Cell} (refused : ¬ accepts cell) (state : State) :
    guarded accepts write cell state = (1, state) :=
  if_neg refused

/-- A guarded loop goes on behind a cell it accepts. -/
theorem untilFailure_accepted {cell : Cell} (accepted : accepts cell) (rest : List Cell) (state : State) :
    untilFailure (guarded accepts write) (cell :: rest) state =
      untilFailure (guarded accepts write) rest (write cell state) := by
  rw [untilFailure, guarded_pos accepted]
  exact if_neg fun failed => failed rfl

/-- A guarded loop ends at a cell it refuses. -/
theorem untilFailure_refused {cell : Cell} (refused : ¬ accepts cell) (rest : List Cell) (state : State) :
    untilFailure (guarded accepts write) (cell :: rest) state = (1, state) := by
  rw [untilFailure, guarded_neg refused]
  exact if_pos Int.one_ne_zero

/-- **Bodies that agree up to the first refused cell give the same loop.** -/
theorem untilFailure_congr {body : Cell → State → Int × State} {cells : List Cell}
    (agree : ∀ done cell rest, cells = done ++ cell :: rest → (∀ earlier ∈ done, accepts earlier) →
      body cell = guarded accepts write cell) (state : State) :
    untilFailure body cells state = untilFailure (guarded accepts write) cells state := by
  induction cells generalizing state with
  | nil => rfl
  | cons cell rest ih =>
    have here : body cell = guarded accepts write cell :=
      agree [] cell rest rfl fun earlier member => nomatch member
    rw [untilFailure, untilFailure, here]
    by_cases accepted : accepts cell
    · rw [guarded, if_pos accepted]
      refine congrArg _ (ih (fun done other after same before => ?_) _)
      refine agree (cell :: done) other after (by rw [same, List.cons_append]) fun earlier member => ?_
      rcases List.mem_cons.mp member with rfl | member
      · exact accepted
      · exact before earlier member
    · rw [guarded, if_neg accepted]
      rfl

/-- **A guarded loop writes the cells before the first refused one**, and returns 0 when there is no
refused one. -/
theorem untilFailure_guarded (accepts : Cell → Prop) [DecidablePred accepts] (write : Cell → State → State)
    (cells : List Cell) (state : State) :
    ∃ done rest, cells = done ++ rest ∧ (∀ cell ∈ done, accepts cell) ∧
      (∀ cell, rest.head? = some cell → ¬ accepts cell) ∧
      untilFailure (guarded accepts write) cells state =
        (if rest = [] then 0 else 1, writeAll write done state) := by
  induction cells generalizing state with
  | nil =>
    refine ⟨[], [], rfl, ?_, ?_, rfl⟩
    · exact fun cell member => nomatch member
    · exact fun cell same => nomatch same
  | cons cell rest ih =>
    by_cases accepted : accepts cell
    · obtain ⟨done, after, same, before, refused, loop⟩ := ih (write cell state)
      refine ⟨cell :: done, after, by rw [same, List.cons_append], fun other member => ?_, refused, ?_⟩
      · rcases List.mem_cons.mp member with rfl | member
        · exact accepted
        · exact before other member
      · rw [untilFailure_accepted accepted, loop]
        rfl
    · refine ⟨[], cell :: rest, rfl, fun other member => (nomatch member), ?_, ?_⟩
      · intro other same
        exact Option.some.inj same ▸ accepted
      · rw [untilFailure_refused accepted]
        rfl

/-- A guarded loop returns 0 exactly when it accepts every cell. -/
theorem untilFailure_eq_zero_iff (cells : List Cell) (state : State) :
    (untilFailure (guarded accepts write) cells state).1 = 0 ↔ ∀ cell ∈ cells, accepts cell := by
  obtain ⟨done, rest, rfl, before, refused, loop⟩ :=
    untilFailure_guarded accepts write cells state
  rw [loop]
  cases rest with
  | nil =>
    rw [if_pos rfl, List.append_nil]
    exact ⟨fun _ => before, fun _ => rfl⟩
  | cons cell rest =>
    rw [if_neg (List.cons_ne_nil cell rest)]
    refine ⟨fun passed => absurd passed Int.one_ne_zero, fun every => ?_⟩
    exact absurd (every cell (by simp)) (refused cell rfl)

/-- A loop whose bodies never fail has all their effects. -/
theorem untilFailure_of_passes {body : Cell → State → Int × State} {cells : List Cell}
    (every : ∀ cell ∈ cells, ∀ state, body cell state = (0, write cell state)) (state : State) :
    untilFailure body cells state = (0, writeAll write cells state) := by
  induction cells generalizing state with
  | nil => rfl
  | cons cell rest ih =>
    have passed := every cell List.mem_cons_self state
    rw [untilFailure_passed (by rw [passed]), passed,
      ih (fun other member => every other (List.mem_cons_of_mem _ member))]
    rfl

/-- A guarded loop that accepts every cell writes them all. -/
theorem untilFailure_of_accepts {cells : List Cell} (every : ∀ cell ∈ cells, accepts cell)
    (state : State) :
    untilFailure (guarded accepts write) cells state = (0, writeAll write cells state) :=
  untilFailure_of_passes (fun cell member _ => if_pos (every cell member)) state

theorem writeAll_map (write : Cell → State → State) (cell : Cell' → Cell) (cells : List Cell')
    (state : State) :
    writeAll write (cells.map cell) state = writeAll (fun index => write (cell index)) cells state :=
  List.foldl_map

/-- Nested writes are the writes of the cells in their order. -/
theorem writeAll_nested (write : Cell' → State → State) (row : Cell → List Cell') (rows : List Cell)
    (state : State) :
    writeAll (fun index => writeAll write (row index)) rows state =
      writeAll write (rows.flatMap row) state := by
  induction rows generalizing state with
  | nil => rfl
  | cons index rest ih =>
    have split : writeAll write (row index ++ rest.flatMap row) state =
        writeAll write (rest.flatMap row) (writeAll write (row index) state) := List.foldl_append
    rw [List.flatMap_cons, split, ← ih]
    rfl

/-- What the write of every cell keeps, all of them keep. -/
theorem writeAll_invariant {P : State → Prop} {cells : List Cell}
    (kept : ∀ cell ∈ cells, ∀ state, P state → P (write cell state)) {state : State}
    (holds : P state) : P (writeAll write cells state) := by
  induction cells generalizing state with
  | nil => exact holds
  | cons cell rest ih =>
    refine ih (fun other member => kept other (List.mem_cons_of_mem _ member)) ?_
    exact kept cell List.mem_cons_self state holds

/-! ### Counting loops -/

/-- A split of the numbers below a count is at a number. -/
theorem range_split {count : Nat} {done rest : List Nat} (split : List.range count = done ++ rest) :
    done = List.range done.length ∧
      rest = (List.range rest.length).map (done.length + ·) ∧ count = done.length + rest.length := by
  have lengths := congrArg List.length split
  rw [List.length_range, List.length_append] at lengths
  rw [lengths, List.range_add] at split
  obtain ⟨first, second⟩ := List.append_inj split List.length_range
  exact ⟨first.symm, second.symm, lengths⟩

/-- The number at a split of the numbers below a count. -/
theorem range_split_cons {count index : Nat} {done rest : List Nat}
    (split : List.range count = done ++ index :: rest) :
    done = List.range index ∧ index < count := by
  obtain ⟨first, second, lengths⟩ := range_split split
  rw [List.length_cons, List.range_succ_eq_map, List.map_cons, List.cons.injEq] at second
  rw [List.length_cons] at lengths
  obtain rfl : index = done.length := second.1
  exact ⟨first, by omega⟩

section Counting

variable {body : Nat → State → Int × State} {accepts : Nat → Prop} [DecidablePred accepts]
  {write : Nat → State → State} {count : Nat}

/-- Bodies that agree up to the first refused number give the same counting loop. -/
theorem untilFailure_range_congr
    (agree : ∀ index < count, (∀ earlier < index, accepts earlier) →
      body index = guarded accepts write index) (state : State) :
    untilFailure body (List.range count) state =
      untilFailure (guarded accepts write) (List.range count) state := by
  refine untilFailure_congr (fun done index rest split before => ?_) state
  obtain ⟨rfl, small⟩ := range_split_cons split
  exact agree index small fun earlier less => before earlier (List.mem_range.mpr less)

/-- A guarded counting loop writes at the numbers before the first refused one. -/
theorem untilFailure_range_guarded (accepts : Nat → Prop) [DecidablePred accepts]
    (write : Nat → State → State) (count : Nat) (state : State) :
    ∃ done ≤ count, (∀ index < done, accepts index) ∧ (done < count → ¬ accepts done) ∧
      untilFailure (guarded accepts write) (List.range count) state =
        (if done = count then 0 else 1, writeAll write (List.range done) state) := by
  obtain ⟨done, rest, split, before, refused, loop⟩ :=
    untilFailure_guarded accepts write (List.range count) state
  obtain ⟨first, -, lengths⟩ := range_split split
  refine ⟨done.length, by omega, fun index less => ?_, fun less => ?_, ?_⟩
  · exact before index (by rw [first]; exact List.mem_range.mpr less)
  · refine refused done.length ?_
    cases rest with
    | nil =>
      rw [List.length_nil] at lengths
      omega
    | cons index rest =>
      have same := congrArg List.length (range_split_cons split).1
      rw [List.length_range] at same
      exact congrArg some same.symm
  · rw [loop, ← first]
    cases rest with
    | nil =>
      have full : done.length = count := lengths.symm
      rw [if_pos rfl, if_pos full]
    | cons index rest =>
      rw [List.length_cons] at lengths
      rw [if_neg (List.cons_ne_nil index rest), if_neg (by omega)]

end Counting

/-! ### Reading behind the writes -/

section Reading

variable {Place Value : Type*} {read : State → Place → Value} {place : Cell → Place}
  {value : Cell → Value}

/-- A write stores its value at its place, and leaves the other places `reach` covers alone. -/
def Stores (read : State → Place → Value) (write : Cell → State → State) (place : Cell → Place)
    (value : Cell → Value) (reach : Place → Prop) : Prop :=
  ∀ cell state, reach (place cell) →
    read (write cell state) (place cell) = value cell ∧
    ∀ other, reach other → other ≠ place cell → read (write cell state) other = read state other

variable {reach : Place → Prop} (stores : Stores read write place value reach)
include stores

/-- A place that no cell is written to keeps its value. -/
theorem read_untouched {cells : List Cell} (other : Place)
    (within : ∀ cell ∈ cells, reach (place cell)) (reached : reach other)
    (untouched : ∀ cell ∈ cells, place cell ≠ other) (state : State) : read (writeAll write cells state) other = read state other := by
  refine writeAll_invariant (P := fun after => read after other = read state other)
    (fun cell member after same => ?_) rfl
  rw [(stores cell after (within cell member)).2 other reached (Ne.symm (untouched cell member))]
  exact same

/-- A place has the value of its cell, when all writes to it are of that value. -/
theorem read_painted {cells : List Cell} (within : ∀ cell ∈ cells, reach (place cell)) {cell : Cell}
    (written : cell ∈ cells)
    (agree : ∀ other ∈ cells, place other = place cell → value other = value cell) (state : State) :
    read (writeAll write cells state) (place cell) = value cell := by
  induction cells using List.reverseRecOn generalizing state with
  | nil => cases written
  | append_singleton before last ih =>
    have split : writeAll write (before ++ [last]) state = write last (writeAll write before state) :=
      List.foldl_append
    have reached : reach (place last) := within last (by simp)
    rw [split]
    by_cases same : place last = place cell
    · rw [← same, (stores last _ reached).1]
      exact agree last (by simp) same
    · rw [(stores last _ reached).2 _ (within cell written) (Ne.symm same)]
      rcases List.mem_append.mp written with earlier | lastOne
      · exact ih (fun c member => within c (List.mem_append_left _ member)) earlier
          (fun c member => agree c (List.mem_append_left _ member)) state
      · exact absurd (congrArg place (List.mem_singleton.mp lastOne).symm) same

end Reading

end Painting
