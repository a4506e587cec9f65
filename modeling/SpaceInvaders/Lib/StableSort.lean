/-
**Stable descending sorts, and the bubble sort.**

`IsStableSort key input output`: `output` descends in `key`, and the items of each key stand in it
in their order in `input`. This determines the output (`IsStableSort.unique`), makes it a
permutation (`IsStableSort.perm`), and sorting in instalments is sorting at once
(`IsStableSort.append`).

`HoldsBest key cap items kept`: the kept items are the best `cap` of all; a sorted prefix holds them
exactly when nothing behind the prefix is better (`IsStableSort.holdsBest_iff`).

`bubbleSort key count` is the two nested loops of a bubble sort on the first `count` places of an
array; `bubbleSort_spec` shows that it sorts these stably and leaves the places from `count` on.
Sorting the places of a list in this way shows what a stable sort does to them
(`IsStableSort.exists_order`).
-/

import Mathlib.Data.Fintype.EquivFin
import Mathlib.Data.List.Perm.Basic
import Mathlib.Data.List.Range
import Mathlib.Order.Lattice

namespace StableSort

variable {α κ : Type*} [LinearOrder κ] {key : α → κ}

/-- The items of each key stand in the two lists in the same order. -/
def SameByKey (key : α → κ) (first second : List α) : Prop :=
  ∀ k, first.filter (fun a => key a = k) = second.filter fun a => key a = k

theorem SameByKey.mem_iff {first second : List α} (same : SameByKey key first second) (a : α) :
    a ∈ first ↔ a ∈ second := by
  have rows := congrArg (a ∈ ·) (same (key a))
  simpa using rows

theorem SameByKey.perm {first second : List α} (same : SameByKey key first second) :
    first.Perm second := by
  classical
  rw [List.perm_iff_count]
  intro a
  have rows := congrArg (List.count a) (same (key a))
  rwa [List.count_filter (by simp), List.count_filter (by simp)] at rows

theorem SameByKey.append {first second first' second' : List α} (same : SameByKey key first second)
    (same' : SameByKey key first' second') : SameByKey key (first ++ first') (second ++ second') :=
  fun k => by rw [List.filter_append, List.filter_append, same, same']

/-- The output descends and keeps the order of the items of each key. -/
structure IsStableSort (key : α → κ) (input output : List α) : Prop where
  sorted : output.Pairwise fun a b => key b ≤ key a
  stable : SameByKey key output input

/-- A stable sort is a permutation. -/
theorem IsStableSort.perm {input output : List α} (sorts : IsStableSort key input output) :
    output.Perm input :=
  sorts.stable.perm

theorem IsStableSort.length_eq {input output : List α} (sorts : IsStableSort key input output) :
    output.length = input.length :=
  sorts.perm.length_eq

/-- What is sorted already is its own stable sort. -/
theorem IsStableSort.refl {input : List α} (sorted : input.Pairwise fun a b => key b ≤ key a) :
    IsStableSort key input input :=
  ⟨sorted, fun _ => rfl⟩

/-- **A stable sort is determined by its input.** -/
theorem IsStableSort.unique {input first second : List α} (sorts : IsStableSort key input first)
    (sorts' : IsStableSort key input second) : first = second := by
  obtain ⟨sorted, stable⟩ := sorts
  obtain ⟨sorted', stable'⟩ := sorts'
  have same : SameByKey key first second := fun k => (stable k).trans (stable' k).symm
  clear stable stable' input
  induction first generalizing second with
  | nil =>
    cases second with
    | nil => rfl
    | cons b second => simpa using same (key b)
  | cons a first ih =>
    cases second with
    | nil => simpa using same (key a)
    | cons b second =>
      rw [List.pairwise_cons] at sorted sorted'
      -- both heads carry the greatest key
      have below : key a ≤ key b := by
        have inside : a ∈ (b :: second).filter fun c => key c = key a := by
          rw [← same]
          simp
        rcases List.mem_cons.mp (List.mem_of_mem_filter inside) with rfl | later
        · exact le_rfl
        · exact sorted'.1 a later
      have above : key b ≤ key a := by
        have inside : b ∈ (a :: first).filter fun c => key c = key b := by
          rw [same]
          simp
        rcases List.mem_cons.mp (List.mem_of_mem_filter inside) with rfl | later
        · exact le_rfl
        · exact sorted.1 b later
      have keys : key a = key b := le_antisymm below above
      have heads : a = b := by
        have front := same (key a)
        rw [List.filter_cons_of_pos (by simp), List.filter_cons_of_pos (by simp [keys])] at front
        exact (List.cons.inj front).1
      subst heads
      congr 1
      refine ih sorted.2 sorted'.2 fun k => ?_
      have rows := same k
      by_cases hit : key a = k
      · rw [List.filter_cons_of_pos (by simpa using hit),
          List.filter_cons_of_pos (by simpa using hit)] at rows
        exact (List.cons.inj rows).2
      · rwa [List.filter_cons_of_neg (by simpa using hit),
          List.filter_cons_of_neg (by simpa using hit)] at rows

/-- **Sorting in instalments.** Sorting a sorted part followed by new items is sorting all of them. -/
theorem IsStableSort.append {first middle rest output : List α}
    (sorts : IsStableSort key first middle) (sorts' : IsStableSort key (middle ++ rest) output) :
    IsStableSort key (first ++ rest) output :=
  ⟨sorts'.sorted, fun k => (sorts'.stable k).trans (sorts.stable.append (fun _ => rfl) k)⟩

/-! ### The best of a list -/

/-- The kept items descend, are as many as the cap allows, and no item left out is better. -/
structure HoldsBest (key : α → κ) (cap : Nat) (items kept : List α) : Prop where
  sorted : kept.Pairwise fun a b => key b ≤ key a
  size : kept.length = min items.length cap
  best : ∃ rest, items.Perm (kept ++ rest) ∧ ∀ a ∈ kept, ∀ b ∈ rest, key b ≤ key a

/-- Sorting the first items keeps the best exactly when no later item is better than one of them. -/
theorem IsStableSort.holdsBest_iff {cap : Nat} {items kept : List α}
    (sorts : IsStableSort key (items.take cap) kept) :
    HoldsBest key cap items kept ↔ ∀ a ∈ items.take cap, ∀ b ∈ items.drop cap, key b ≤ key a := by
  have whole : items.Perm (kept ++ items.drop cap) := by
    conv_lhs => rw [← List.take_append_drop cap items]
    exact sorts.perm.symm.append_right _
  constructor
  · rintro ⟨_, _, rest, split, best⟩ a early b late
    -- what is left out is what comes behind the prefix
    have same : rest.Perm (items.drop cap) :=
      (List.perm_append_left_iff kept).mp (split.symm.trans whole)
    exact best a (sorts.perm.mem_iff.mpr early) b (same.mem_iff.mpr late)
  · intro best
    refine ⟨sorts.sorted, ?_, items.drop cap, whole, fun a inside b late => ?_⟩
    · rw [sorts.length_eq, List.length_take, Nat.min_comm]
    · exact best a (sorts.perm.mem_iff.mp inside) b late

/-! ### The bubble sort -/

/-- One comparison of the inner loop, at places `j` and `j + 1`. -/
def swapIfLess (key : α → κ) (array : List α) (j : Nat) : List α :=
  match array[j]?, array[j + 1]? with
  | some a, some b => if key a < key b then (array.set j b).set (j + 1) a else array
  | _, _ => array

/-- The inner loop: comparisons at the places `0, …, n - 1`. -/
def bubblePass (key : α → κ) (n : Nat) (array : List α) : List α :=
  (List.range n).foldl (swapIfLess key) array

/-- The outer loop, over the first `count` places. -/
def bubbleSort (key : α → κ) (count : Nat) (array : List α) : List α :=
  (List.range (count - 1)).foldl (fun array i => bubblePass key (count - i - 1) array) array

theorem swapIfLess_succ (a : α) (array : List α) (j : Nat) :
    swapIfLess key (a :: array) (j + 1) = a :: swapIfLess key array j := by
  unfold swapIfLess
  rw [List.getElem?_cons_succ, List.getElem?_cons_succ]
  cases array[j]? with
  | none => rfl
  | some first =>
    cases array[j + 1]? with
    | none => rfl
    | some second =>
      show (if _ then _ else _) = a :: if _ then _ else _
      split <;> rfl

/-- A pass compares the first two items and goes on behind the one it leaves in front. -/
theorem bubblePass_cons_cons (n : Nat) (a b : α) (array : List α) :
    bubblePass key (n + 1) (a :: b :: array) =
      if key a < key b then b :: bubblePass key n (a :: array)
      else a :: bubblePass key n (b :: array) := by
  have tail : ∀ (places : List Nat) (front : α) (rest : List α),
      (places.map Nat.succ).foldl (swapIfLess key) (front :: rest) =
        front :: places.foldl (swapIfLess key) rest := by
    intro places
    induction places with
    | nil => exact fun _ _ => rfl
    | cons place places ih =>
      intro front rest
      rw [List.map_cons, List.foldl_cons, List.foldl_cons, swapIfLess_succ, ih]
  unfold bubblePass
  rw [List.range_succ_eq_map, List.foldl_cons]
  have first : swapIfLess key (a :: b :: array) 0 =
      if key a < key b then b :: a :: array else a :: b :: array := rfl
  rw [first]
  split
  · exact tail _ _ _
  · exact tail _ _ _

/-- A pass over `front` leaves what comes after it. -/
theorem bubblePass_append (front rest : List α) (n : Nat) (size : front.length = n + 1) :
    bubblePass key n (front ++ rest) = bubblePass key n front ++ rest := by
  induction n generalizing front with
  | zero => rfl
  | succ n ih =>
    obtain ⟨a, front, rfl⟩ := List.exists_cons_of_length_eq_add_one size
    rw [List.length_cons, Nat.add_right_cancel_iff] at size
    obtain ⟨b, front, rfl⟩ := List.exists_cons_of_length_eq_add_one size
    rw [List.length_cons, Nat.add_right_cancel_iff] at size
    rw [List.cons_append, List.cons_append, bubblePass_cons_cons, bubblePass_cons_cons,
      ← List.cons_append, ← List.cons_append, ih (a :: front) (by simpa using size),
      ih (b :: front) (by simpa using size)]
    split <;> rfl

/-- **One pass** moves a least item to the end, and is stable. -/
theorem bubblePass_spec (n : Nat) (front : List α) (size : front.length = n + 1) :
    ∃ init last, bubblePass key n front = init ++ [last] ∧ (∀ a ∈ init, key last ≤ key a) ∧
      SameByKey key (init ++ [last]) front := by
  induction n generalizing front with
  | zero =>
    obtain ⟨a, rfl⟩ := List.length_eq_one_iff.mp size
    exact ⟨[], a, rfl, by simp, fun _ => rfl⟩
  | succ n ih =>
    obtain ⟨a, front, rfl⟩ := List.exists_cons_of_length_eq_add_one size
    rw [List.length_cons, Nat.add_right_cancel_iff] at size
    obtain ⟨b, front, rfl⟩ := List.exists_cons_of_length_eq_add_one size
    rw [List.length_cons, Nat.add_right_cancel_iff] at size
    rw [bubblePass_cons_cons]
    -- the last item is below the one that went on
    have least : ∀ (c last : α) (init : List α), (∀ d ∈ init, key last ≤ key d) →
        SameByKey key (init ++ [last]) (c :: front) → key last ≤ key c := by
      intro c last init low same
      rcases List.mem_append.mp ((same.mem_iff c).mpr List.mem_cons_self) with early | late
      · exact low c early
      · exact le_of_eq (congrArg key (List.mem_singleton.mp late).symm)
    by_cases less : key a < key b
    · obtain ⟨init, last, passed, low, same⟩ := ih (a :: front) (by simpa using size)
      rw [if_pos less, passed]
      refine ⟨b :: init, last, rfl, ?_, fun k => ?_⟩
      · rintro d member
        rcases List.mem_cons.mp member with rfl | later
        · exact (least a last init low same).trans less.le
        · exact low d later
      · rw [List.cons_append, List.filter_cons, same, List.filter_cons, List.filter_cons,
          List.filter_cons]
        by_cases hitB : key b = k
        · have missA : key a ≠ k := fun hitA => absurd less (by rw [hitA, hitB]; exact lt_irrefl k)
          simp [hitB, missA]
        · simp [hitB]
    · obtain ⟨init, last, passed, low, same⟩ := ih (b :: front) (by simpa using size)
      rw [if_neg less, passed]
      refine ⟨a :: init, last, rfl, ?_, fun k => ?_⟩
      · rintro d member
        rcases List.mem_cons.mp member with rfl | later
        · exact (least b last init low same).trans (not_lt.mp less)
        · exact low d later
      · rw [List.cons_append, List.filter_cons, same, List.filter_cons (x := a)]

/-- The outer loop after `i` passes: a front still to be sorted above a sorted back, and the places
it does not touch. -/
theorem bubblePasses_spec (front rest : List α) {count : Nat} (size : front.length = count)
    (i : Nat) (small : i ≤ count - 1) :
    ∃ unsorted done, (List.range i).foldl (fun array i => bubblePass key (count - i - 1) array)
          (front ++ rest) = unsorted ++ (done ++ rest) ∧ unsorted.length + i = count ∧
      (done.Pairwise fun a b => key b ≤ key a) ∧ (∀ a ∈ unsorted, ∀ b ∈ done, key b ≤ key a) ∧
      SameByKey key (unsorted ++ done) front := by
  induction i with
  | zero => exact ⟨front, [], by simp, by omega, List.Pairwise.nil, by simp, fun _ => by simp⟩
  | succ i ih =>
    obtain ⟨unsorted, done, reached, sizes, sorted, above, same⟩ := ih (by omega)
    have passSize : unsorted.length = (count - i - 1) + 1 := by omega
    obtain ⟨init, last, passed, low, keeps⟩ := @bubblePass_spec _ _ _ key _ unsorted passSize
    have inside : ∀ a, a ∈ init ∨ a = last → a ∈ unsorted := fun a member =>
      (keeps.mem_iff a).mp (by simpa using member)
    have lengths := keeps.perm.length_eq
    rw [List.length_append, List.length_singleton] at lengths
    refine ⟨init, last :: done, ?_, by omega, ?_, ?_, fun k => ?_⟩
    · rw [List.range_succ, List.foldl_append, reached, List.foldl_cons, List.foldl_nil,
        bubblePass_append _ _ _ passSize, passed, List.append_assoc]
      rfl
    · exact List.pairwise_cons.mpr ⟨fun b member => above last (inside last (.inr rfl)) b member, sorted⟩
    · rintro a member b later
      rcases List.mem_cons.mp later with rfl | inDone
      · exact low a member
      · exact above a (inside a (.inl member)) b inDone
    · rw [← same k, ← (keeps.append (fun _ => rfl : SameByKey key done done)) k,
        List.append_assoc]
      rfl

/-- **The bubble sort** sorts the first `count` places stably and leaves the others. -/
theorem bubbleSort_spec (front rest : List α) :
    ∃ sorted, bubbleSort key front.length (front ++ rest) = sorted ++ rest ∧
      IsStableSort key front sorted := by
  obtain ⟨unsorted, done, reached, sizes, sorted, above, same⟩ :=
    @bubblePasses_spec _ _ _ key front rest _ rfl (front.length - 1) le_rfl
  refine ⟨unsorted ++ done, by rw [List.append_assoc, ← reached]; rfl, ?_, same⟩
  rw [List.pairwise_append]
  refine ⟨?_, sorted, above⟩
  -- at most one item was never moved behind the front
  match unsorted, sizes with
  | [], _ => exact List.Pairwise.nil
  | [a], _ => exact List.pairwise_singleton _ a
  | _ :: _ :: _, sizes =>
    rw [List.length_cons, List.length_cons] at sizes
    omega

/-! ### The order of a stable sort -/

theorem SameByKey.map {β : Type*} {first second : List β} (f : β → α)
    (same : SameByKey (fun b => key (f b)) first second) :
    SameByKey key (first.map f) (second.map f) := by
  intro k
  rw [List.filter_map, List.filter_map]
  exact congrArg (List.map f) (same k)

theorem IsStableSort.map {β : Type*} {input output : List β} (f : β → α)
    (sorts : IsStableSort (fun b => key (f b)) input output) :
    IsStableSort key (input.map f) (output.map f) :=
  ⟨List.pairwise_map.mpr sorts.sorted, sorts.stable.map f⟩

/-- A relation that holds along the input holds between the items of each key along the output. -/
theorem IsStableSort.pairwise {input output : List α} {r : α → α → Prop}
    (sorts : IsStableSort key input output) (along : input.Pairwise r) :
    output.Pairwise fun a b => key a = key b → r a b := by
  rw [List.pairwise_iff_getElem]
  intro i j early late before keys
  -- both items stand in the row of one key, which is a row of the input
  have row : (output.filter fun a => key a = key output[i]).Pairwise r := by
    rw [sorts.stable]
    exact along.filter _
  rw [List.pairwise_filter, List.pairwise_iff_getElem] at row
  exact row i j early late before (by simp) (by simpa using keys.symm)

/-- **The order of a stable sort.** Each place of the output holds the item of one place of the input,
no two of the same, and items of one key keep their order. -/
theorem IsStableSort.exists_order {input output : List α} (sorts : IsStableSort key input output) :
    ∃ order : Equiv.Perm (Fin input.length),
      (∀ place : Fin input.length, output[place]? = some (input.get (order place))) ∧
        ∀ first second, first < second →
          key (input.get (order first)) = key (input.get (order second)) →
            order first < order second := by
  -- the places of the input, sorted by the items they hold
  obtain ⟨places, _, sortsPlaces⟩ :=
    @bubbleSort_spec _ _ _ (fun place => key (input.get place)) (List.finRange input.length) []
  have holds : output = places.map input.get := by
    have sorted := @IsStableSort.map _ _ _ key _ _ _ input.get sortsPlaces
    rw [List.map_get_finRange] at sorted
    exact sorts.unique sorted
  have size : places.length = input.length := by
    rw [sortsPlaces.length_eq, List.length_finRange]
  have distinct : places.Nodup := sortsPlaces.perm.nodup_iff.mpr (List.nodup_finRange _)
  have injective : Function.Injective fun place : Fin input.length => places.get (place.cast size.symm) :=
    fun first second same => by simpa using distinct.injective_get same
  refine ⟨Equiv.ofBijective _ (Finite.injective_iff_bijective.mp injective), fun place => ?_,
    fun first second before keys => ?_⟩
  · have inside : (place : Nat) < places.length := size.symm ▸ place.isLt
    show output[(place : Nat)]? = some (input.get places[(place : Nat)])
    rw [holds, List.getElem?_map, List.getElem?_eq_getElem inside]
    rfl
  · have along := sortsPlaces.pairwise (List.pairwise_lt_finRange _)
    rw [List.pairwise_iff_get] at along
    exact along (first.cast size.symm) (second.cast size.symm) before keys

end StableSort
