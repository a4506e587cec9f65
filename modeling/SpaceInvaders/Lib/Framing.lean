/-
**Framing a stream of symbols.**

A frame begins with a symbol that `starts` one and ends where the symbols so far are `complete`; symbols
before such a beginning are skipped.

* `push`, `cut`: the receiver, one symbol at a time: the frames so far and the symbols of the next;
* `Framed received frames pending`: what it is for, without a receiver: the stream is a sequence of
  skipped symbols and frames, in their order, and of the beginning of a frame at its end;
* `framed_iff_cut`: the receiver finds the one such framing;
* `Framed.flatten_sublist`: no symbol of the stream is in two frames.
-/

import Mathlib.Data.List.Induction

namespace Framing

variable {α : Type*} {starts : α → Bool} {complete : List α → Bool}

/-! ### Framings of a stream -/

/-- The beginning of a frame, or nothing. -/
structure Beginning (starts : α → Bool) (complete : List α → Bool) (symbols : List α) : Prop where
  begins : ∀ first rest, symbols = first :: rest → starts first
  incomplete : ∀ beginning, beginning <+: symbols → beginning ≠ [] → ¬ complete beginning

/-- A frame: it is complete, and none of its beginnings is. -/
structure Frame (starts : α → Bool) (complete : List α → Bool) (symbols : List α) : Prop where
  nonempty : symbols ≠ []
  begins : ∀ first rest, symbols = first :: rest → starts first
  completed : complete symbols
  shortest : ∀ beginning, beginning <+: symbols → beginning ≠ [] → complete beginning →
    beginning = symbols

/-- The stream consists of frames, of skipped symbols before each and behind the last, and of the
pending beginning of one more frame. -/
def Framed (starts : α → Bool) (complete : List α → Bool) (received : List α)
    (frames : List (List α)) (pending : List α) : Prop :=
  ∃ (blocks : List (List α × List α)) (idle : List α),
    received = blocks.flatMap (fun block => block.1 ++ block.2) ++ idle ++ pending ∧
    frames = blocks.map Prod.snd ∧
    (∀ block ∈ blocks, (∀ symbol ∈ block.1, ¬ starts symbol) ∧ Frame starts complete block.2) ∧
    (∀ symbol ∈ idle, ¬ starts symbol) ∧
    Beginning starts complete pending

/-- The frames and the pending symbols are in the stream, each at a place of its own. -/
theorem Framed.flatten_sublist {received : List α} {frames : List (List α)} {pending : List α}
    (framed : Framed starts complete received frames pending) :
    (frames.flatten ++ pending).Sublist received := by
  obtain ⟨blocks, idle, rfl, rfl, -, -, -⟩ := framed
  refine List.Sublist.append ?_ (List.Sublist.refl pending)
  refine List.Sublist.trans ?_ (List.sublist_append_left _ idle)
  induction blocks with
  | nil => exact List.Sublist.refl _
  | cons block blocks ih => exact (List.sublist_append_right block.1 block.2).append ih

theorem beginning_nil : Beginning starts complete [] := by
  refine ⟨fun first rest same => absurd same (by simp), fun beginning within nonempty => ?_⟩
  exact absurd (List.prefix_nil.mp within) nonempty

/-- The beginning of a frame without its last symbol. -/
theorem Beginning.init {symbols : List α} {last : α} (part : Beginning starts complete (symbols ++ [last])) :
    Beginning starts complete symbols := by
  refine ⟨fun first rest same => ?_, fun beginning within => ?_⟩
  · subst same
    exact part.begins first (rest ++ [last]) rfl
  · exact part.incomplete beginning (within.trans (List.prefix_append _ _))

/-- A frame without its last symbol. -/
theorem Frame.init {symbols : List α} {last : α} (frame : Frame starts complete (symbols ++ [last])) :
    Beginning starts complete symbols := by
  refine ⟨fun first rest same => ?_, fun beginning within nonempty done => ?_⟩
  · subst same
    exact frame.begins first (rest ++ [last]) rfl
  · have same := frame.shortest beginning (within.trans (List.prefix_append _ _)) nonempty done
    have shorter := within.length_le
    rw [same, List.length_append] at shorter
    exact absurd shorter (by simp)

/-! ### The receiver -/

/-- One symbol: skipped, put to the pending ones, or the last of a frame. -/
def push (starts : α → Bool) (complete : List α → Bool) (state : List (List α) × List α)
    (symbol : α) : List (List α) × List α :=
  if state.2.isEmpty ∧ ¬ starts symbol then state
  else if complete (state.2 ++ [symbol]) then (state.1 ++ [state.2 ++ [symbol]], [])
  else (state.1, state.2 ++ [symbol])

/-- The frames of the stream and its pending symbols. -/
def cut (starts : α → Bool) (complete : List α → Bool) (received : List α) :
    List (List α) × List α :=
  received.foldl (push starts complete) ([], [])

theorem cut_snoc (received : List α) (symbol : α) :
    cut starts complete (received ++ [symbol]) =
      push starts complete (cut starts complete received) symbol := by
  rw [cut, List.foldl_append]
  rfl

/-- A symbol that starts no frame, between two frames. -/
theorem push_skip (frames : List (List α)) {symbol : α} (idle : ¬ starts symbol) :
    push starts complete (frames, []) symbol = (frames, []) :=
  if_pos ⟨rfl, idle⟩

/-- A symbol that completes its frame. -/
theorem push_complete (frames : List (List α)) {pending : List α} {symbol : α}
    (kept : pending = [] → starts symbol) (done : complete (pending ++ [symbol])) :
    push starts complete (frames, pending) symbol = (frames ++ [pending ++ [symbol]], []) := by
  have notSkipped : ¬ (pending.isEmpty ∧ ¬ starts symbol) :=
    fun skipped => skipped.2 (kept (List.isEmpty_iff.mp skipped.1))
  rw [push, if_neg notSkipped, if_pos done]

/-- A symbol of a frame that goes on. -/
theorem push_keep (frames : List (List α)) {pending : List α} {symbol : α}
    (kept : pending = [] → starts symbol) (short : ¬ complete (pending ++ [symbol])) :
    push starts complete (frames, pending) symbol = (frames, pending ++ [symbol]) := by
  have notSkipped : ¬ (pending.isEmpty ∧ ¬ starts symbol) :=
    fun skipped => skipped.2 (kept (List.isEmpty_iff.mp skipped.1))
  rw [push, if_neg notSkipped, if_neg short]

/-! ### The receiver finds the framing -/

theorem foldl_skipped (frames : List (List α)) {skipped : List α}
    (idle : ∀ symbol ∈ skipped, ¬ starts symbol) :
    skipped.foldl (push starts complete) (frames, []) = (frames, []) := by
  induction skipped with
  | nil => rfl
  | cons symbol skipped ih =>
    rw [List.foldl_cons, push_skip frames (idle symbol List.mem_cons_self)]
    exact ih fun other member => idle other (List.mem_cons_of_mem _ member)

theorem foldl_beginning (frames : List (List α)) {symbols : List α}
    (part : Beginning starts complete symbols) :
    symbols.foldl (push starts complete) (frames, []) = (frames, symbols) := by
  induction symbols using List.reverseRecOn with
  | nil => rfl
  | append_singleton symbols last ih =>
    rw [List.foldl_append, List.foldl_cons, List.foldl_nil, ih part.init]
    refine push_keep frames (fun empty => ?_) (part.incomplete _ List.prefix_rfl (by simp))
    exact part.begins last [] (by rw [empty, List.nil_append])

theorem foldl_frame (frames : List (List α)) {symbols : List α}
    (frame : Frame starts complete symbols) :
    symbols.foldl (push starts complete) (frames, []) = (frames ++ [symbols], []) := by
  obtain ⟨before, last, rfl⟩ : ∃ before last, symbols = before ++ [last] :=
    ⟨_, _, (List.dropLast_concat_getLast frame.nonempty).symm⟩
  rw [List.foldl_append, List.foldl_cons, List.foldl_nil, foldl_beginning frames frame.init]
  refine push_complete frames (fun empty => ?_) frame.completed
  exact frame.begins last [] (by rw [empty, List.nil_append])

theorem foldl_blocks (frames : List (List α)) {blocks : List (List α × List α)}
    (each : ∀ block ∈ blocks, (∀ symbol ∈ block.1, ¬ starts symbol) ∧ Frame starts complete block.2) :
    (blocks.flatMap fun block => block.1 ++ block.2).foldl (push starts complete) (frames, []) =
      (frames ++ blocks.map Prod.snd, []) := by
  induction blocks generalizing frames with
  | nil => simp
  | cons block blocks ih =>
    obtain ⟨idle, frame⟩ := each block List.mem_cons_self
    rw [List.flatMap_cons, List.foldl_append, List.foldl_append, foldl_skipped frames idle,
      foldl_frame frames frame, ih _ fun other member => each other (List.mem_cons_of_mem _ member),
      List.map_cons, List.append_assoc, List.singleton_append]

/-- A framing is extended by what the receiver does with one symbol. -/
theorem Framed.push {received : List α} {frames : List (List α)} {pending : List α}
    (framed : Framed starts complete received frames pending) (symbol : α) :
    Framed starts complete (received ++ [symbol])
      (push starts complete (frames, pending) symbol).1
      (push starts complete (frames, pending) symbol).2 := by
  obtain ⟨blocks, idle, rfl, rfl, each, quiet, part⟩ := framed
  by_cases skipped : pending = [] ∧ ¬ starts symbol
  · obtain ⟨rfl, notStarts⟩ := skipped
    rw [push_skip _ notStarts]
    refine ⟨blocks, idle ++ [symbol], by simp, rfl, each, fun other member => ?_, beginning_nil⟩
    rcases List.mem_append.mp member with member | member
    · exact quiet other member
    · exact List.mem_singleton.mp member ▸ notStarts
  · have kept : pending = [] → starts symbol := fun empty => by
      by_contra notStarts
      exact skipped ⟨empty, notStarts⟩
    have starts' : ∀ first rest, pending ++ [symbol] = first :: rest → starts first := by
      intro first rest same
      cases pending with
      | nil =>
        obtain ⟨rfl, -⟩ := List.cons.inj same
        exact kept rfl
      | cons head tail =>
        obtain ⟨rfl, -⟩ := List.cons.inj same
        exact part.begins head tail rfl
    by_cases done : complete (pending ++ [symbol])
    · rw [push_complete _ kept done]
      have frame : Frame starts complete (pending ++ [symbol]) := by
        refine ⟨by simp, starts', done, fun beginning within nonempty short => ?_⟩
        rcases List.prefix_concat_iff.mp within with same | within
        · exact same
        · exact absurd short (part.incomplete beginning within nonempty)
      refine ⟨blocks ++ [(idle, pending ++ [symbol])], [], by simp, by simp, ?_,
        by simp, beginning_nil⟩
      intro block member
      rcases List.mem_append.mp member with member | member
      · exact each block member
      · obtain rfl := List.mem_singleton.mp member
        exact ⟨quiet, frame⟩
    · rw [push_keep _ kept done]
      refine ⟨blocks, idle, by simp, rfl, each, quiet, starts', fun beginning within nonempty => ?_⟩
      rcases List.prefix_concat_iff.mp within with same | within
      · exact same ▸ done
      · exact part.incomplete beginning within nonempty

/-- **The receiver finds the framing of the stream, and it is the only one.** -/
theorem framed_iff_cut {received : List α} {frames : List (List α)} {pending : List α} :
    Framed starts complete received frames pending ↔
      cut starts complete received = (frames, pending) := by
  constructor
  · rintro ⟨blocks, idle, rfl, rfl, each, quiet, part⟩
    rw [cut, List.foldl_append, List.foldl_append, foldl_blocks [] each, foldl_skipped _ quiet,
      foldl_beginning _ part, List.nil_append]
  · intro same
    have framed : Framed starts complete received (cut starts complete received).1
        (cut starts complete received).2 := by
      clear same
      induction received using List.reverseRecOn with
      | nil => exact ⟨[], [], rfl, rfl, by simp, by simp, beginning_nil⟩
      | append_singleton received symbol ih =>
        rw [cut_snoc]
        exact ih.push symbol
    rwa [same] at framed

end Framing
