/-
**What `sort_highscores` does to the array.**

The loops run over the first `highscore_count` places of an array of any length. `SortsFirst count` says
what they may do there: the records at these places are rearranged as whole records, they descend in
their scores with ties in their old order, the places behind stay as they are, and so does a table that
descends already.

* `sortHighscores_sortsFirst` — the sort does this for every count up to the length of the array.
* `ScoreTable.sortsFirst_sort` — so it does to the game's table, whatever it holds.
* `ScoreTable.sort_sort` — sorting a table again changes nothing.
-/

import SpaceInvaders.Model.HighScores

namespace SpaceInvaders

/-- The scores descend. -/
def Descends (highscores : List HighScoreEntry) : Prop :=
  highscores.Pairwise fun first second => second.score ≤ first.score

/-- The first `count` places are sorted by score, stably and by moving whole records. -/
structure SortsFirst (count : Nat) (before after : List HighScoreEntry) : Prop where
  size : after.length = before.length
  perm : (after.take count).Perm (before.take count)
  descends : Descends (after.take count)
  -- place by place: the record of one old place each, and ties in the order of their old places
  order : ∃ order : Equiv.Perm (Fin count),
    (∀ place : Fin count, after[place]? = before[order place]?) ∧
      ∀ first second : Fin count, first < second →
        (after[first]?).map HighScoreEntry.score = (after[second]?).map HighScoreEntry.score →
          order first < order second
  untouched : ∀ place, count ≤ place → after[place]? = before[place]?
  kept : Descends (before.take count) → after = before

/-- A stable sort of a front, with what follows it. -/
theorem SortsFirst.of_append {front sorted : List HighScoreEntry} (rest : List HighScoreEntry)
    (sorts : StableSort.IsStableSort HighScoreEntry.score front sorted) :
    SortsFirst front.length (front ++ rest) (sorted ++ rest) := by
  have lengths : sorted.length = front.length := sorts.length_eq
  have taken : (sorted ++ rest).take front.length = sorted := by
    rw [← lengths, List.take_left]
  have inFront (place : Fin front.length) (list : List HighScoreEntry)
      (same : list.length = front.length) : (list ++ rest)[place]? = list[place]? := by
    apply List.getElem?_append_left
    rw [same]
    exact place.isLt
  obtain ⟨order, holds, stable⟩ := sorts.exists_order
  refine ⟨?_, ?_, ?_, ⟨order, fun place => ?_, fun first second before ties => ?_⟩,
    fun place behind => ?_, fun descends => ?_⟩
  · rw [List.length_append, List.length_append, lengths]
  · rw [taken, List.take_left]
    exact sorts.perm
  · rw [taken]
    exact sorts.sorted
  · rw [inFront place sorted lengths, inFront (order place) front rfl, holds place]
    exact (List.getElem?_eq_getElem (order place).isLt).symm
  · apply stable first second before
    rw [inFront first sorted lengths, inFront second sorted lengths, holds, holds] at ties
    exact Option.some.inj ties
  · rw [List.getElem?_append_right (lengths.le.trans behind), List.getElem?_append_right behind,
      lengths]
  · rw [List.take_left] at descends
    rw [sorts.unique (StableSort.IsStableSort.refl descends)]

/-- The same for the first places of one array. -/
theorem SortsFirst.of_take {count : Nat} {highscores sorted : List HighScoreEntry}
    (within : count ≤ highscores.length)
    (sorts : StableSort.IsStableSort HighScoreEntry.score (highscores.take count) sorted) :
    SortsFirst count highscores (sorted ++ highscores.drop count) := by
  have whole := SortsFirst.of_append (highscores.drop count) sorts
  rwa [List.length_take_of_le within, List.take_append_drop] at whole

/-- **`sort_highscores` sorts** the first `count` places of every array that has as many. -/
theorem sortHighscores_sortsFirst (count : Nat) (highscores : List HighScoreEntry)
    (within : count ≤ highscores.length) :
    SortsFirst count highscores (sortHighscores count highscores) := by
  obtain ⟨sorted, reached, sorts⟩ := sortHighscores_take within
  rw [reached]
  exact SortsFirst.of_take within sorts

/-- Four places of which three are sorted: a tie that stays in its order, and a better record behind
them that stays where it is. -/
theorem sortHighscores_sortsFirst_ties :
    sortHighscores 3 [⟨[65], 10, 1, 1⟩, ⟨[66], 20, 2, 2⟩, ⟨[67], 10, 3, 3⟩, ⟨[68], 90, 4, 4⟩] =
        [⟨[66], 20, 2, 2⟩, ⟨[65], 10, 1, 1⟩, ⟨[67], 10, 3, 3⟩, ⟨[68], 90, 4, 4⟩] ∧
      SortsFirst 3 [⟨[65], 10, 1, 1⟩, ⟨[66], 20, 2, 2⟩, ⟨[67], 10, 3, 3⟩, ⟨[68], 90, 4, 4⟩]
        (sortHighscores 3 [⟨[65], 10, 1, 1⟩, ⟨[66], 20, 2, 2⟩, ⟨[67], 10, 3, 3⟩, ⟨[68], 90, 4, 4⟩]) :=
  ⟨by decide, sortHighscores_sortsFirst 3 _ (by decide)⟩

/-! ### The game's table -/

/-- **Sorting the table**, whatever its array holds from `highscore_count` on. -/
theorem ScoreTable.sortsFirst_sort (table : ScoreTable) :
    SortsFirst table.highscoreCount table.highscores table.sort.highscores := by
  obtain ⟨sorted, reached, sorts⟩ := sortHighscores_take table.within_length
  show SortsFirst table.highscoreCount table.highscores
    (sortHighscores table.highscoreCount table.highscores)
  rw [reached]
  exact SortsFirst.of_take table.within_length sorts

/-- **Sorting twice** is sorting once. -/
theorem ScoreTable.sort_sort (table : ScoreTable) : table.sort.sort = table.sort := by
  have same : table.sort.sort.highscores = table.sort.highscores :=
    table.sort.sortsFirst_sort.kept table.sortsFirst_sort.descends
  simp only [ScoreTable.sort] at same ⊢
  congr 1

end SpaceInvaders
