/-
**Fixed slots in a list**: taking the first free one, and releasing some.

`fillFirst busy value slots` puts `value` into the first slot that is not busy and is `none` when
every slot is. `fillFirst_eq_some` gives the split of the list around the slot taken, which is what
the preservation lemmas (`busyPairs_fillFirst`, `forall_mem_fillFirst`) and the count
(`countP_fillFirst`, `exists_fillFirst`) rest on.

`Released release slots slots'`: some of the slots were released, in place. A busy slot afterwards
was there before (`Released.mem`, `Released.getElem?`), so what holds of the busy slots, or of the
pairs of them, still does (`Released.busyPairs`).

`SameBusy busy slots slots'`: two lists that differ only in what their idle slots hold. Operations that
look at the busy slots only do not tell them apart (`SameBusy.fillFirst`, `SameBusy.any`).
-/

import Mathlib.Data.List.Basic
import Mathlib.Data.List.Forall2

namespace Slots

variable {α : Type*} {busy : α → Bool} {value : α}

/-- Put a value into the first slot that is not busy. -/
def fillFirst (busy : α → Bool) (value : α) : List α → Option (List α)
  | [] => none
  | slot :: rest =>
    if busy slot then (fillFirst busy value rest).map (slot :: ·) else some (value :: rest)

/-- The slot taken: the ones before it are busy, it is not, the others stay. -/
theorem fillFirst_eq_some {slots filled : List α} (taken : fillFirst busy value slots = some filled) :
    ∃ before slot after, slots = before ++ slot :: after ∧ filled = before ++ value :: after ∧
      busy slot = false ∧ ∀ other ∈ before, busy other = true := by
  induction slots generalizing filled with
  | nil => cases taken
  | cons slot rest ih =>
    unfold fillFirst at taken
    by_cases used : busy slot = true
    · rw [if_pos used] at taken
      obtain ⟨filledRest, takenRest, rfl⟩ := Option.map_eq_some_iff.mp taken
      obtain ⟨before, free, after, rfl, rfl, isFree, allBusy⟩ := ih takenRest
      exact ⟨slot :: before, free, after, rfl, rfl, isFree, by simpa [used] using allBusy⟩
    · rw [if_neg used] at taken
      cases taken
      exact ⟨[], slot, rest, rfl, rfl, by simpa using used, by simp⟩

/-- Filling keeps the number of slots. -/
theorem fillFirst_length {slots filled : List α} (taken : fillFirst busy value slots = some filled) :
    filled.length = slots.length := by
  obtain ⟨before, slot, after, rfl, rfl, _⟩ := fillFirst_eq_some taken
  simp

/-- What holds of every slot and of the new value holds of every slot afterwards. -/
theorem forall_mem_fillFirst {P : α → Prop} {slots filled : List α}
    (taken : fillFirst busy value slots = some filled) (slotsHold : ∀ slot ∈ slots, P slot)
    (valueHolds : P value) : ∀ slot ∈ filled, P slot := by
  obtain ⟨before, slot, after, rfl, rfl, _⟩ := fillFirst_eq_some taken
  simp only [List.mem_append, List.mem_cons] at slotsHold ⊢
  rintro other (inBefore | rfl | inAfter)
  · exact slotsHold other (.inl inBefore)
  · exact valueHolds
  · exact slotsHold other (.inr (.inr inAfter))

/-- There is a free slot while not all of them are busy. -/
theorem exists_fillFirst {slots : List α} (value : α) (room : slots.countP busy < slots.length) :
    ∃ filled, fillFirst busy value slots = some filled := by
  induction slots with
  | nil => cases room
  | cons slot rest ih =>
    unfold fillFirst
    by_cases used : busy slot = true
    · rw [List.countP_cons_of_pos used, List.length_cons] at room
      obtain ⟨filled, taken⟩ := ih (Nat.lt_of_add_lt_add_right room)
      exact ⟨slot :: filled, by rw [if_pos used, taken]; rfl⟩
    · exact ⟨value :: rest, if_neg used⟩

/-- Filling with a busy value makes one more slot busy. -/
theorem countP_fillFirst {slots filled : List α} (taken : fillFirst busy value slots = some filled)
    (used : busy value = true) : filled.countP busy = slots.countP busy + 1 := by
  obtain ⟨before, slot, after, rfl, rfl, free, _⟩ := fillFirst_eq_some taken
  rw [List.countP_append, List.countP_append, List.countP_cons_of_pos used,
    List.countP_cons_of_neg (by rw [free]; exact Bool.false_ne_true)]
  rfl

/-! ### Pairs of busy slots -/

/-- The relation holds between every two busy slots, in their order. -/
def BusyPairs (busy : α → Bool) (R : α → α → Prop) (slots : List α) : Prop :=
  slots.Pairwise fun a b => busy a = true → busy b = true → R a b

/-- A symmetric relation between the busy slots is kept when the new value is related to them. -/
theorem busyPairs_fillFirst {R : α → α → Prop} (symmetric : ∀ a b, R a b → R b a)
    {slots filled : List α} (taken : fillFirst busy value slots = some filled)
    (related : BusyPairs busy R slots) (valueRelated : ∀ slot ∈ slots, busy slot = true → R slot value) :
    BusyPairs busy R filled := by
  obtain ⟨before, slot, after, rfl, rfl, _⟩ := fillFirst_eq_some taken
  simp only [BusyPairs, List.pairwise_append, List.pairwise_cons, List.mem_append,
    List.mem_cons] at *
  obtain ⟨beforeRelated, ⟨_, afterRelated⟩, across⟩ := related
  refine ⟨beforeRelated, ⟨fun other inAfter _ used => ?_, afterRelated⟩, ?_⟩
  · exact symmetric _ _ (valueRelated other (.inr (.inr inAfter)) used)
  · rintro first inBefore second (rfl | inAfter)
    · exact fun used _ => valueRelated first (.inl inBefore) used
    · exact across first inBefore second (.inr inAfter)

/-- Without three busy slots in the relation, two by two, at most two are busy. -/
theorem countP_le_two {R : α → α → Prop} {slots : List α} (related : BusyPairs busy R slots)
    (noThree : ∀ a ∈ slots, ∀ b ∈ slots, ∀ c ∈ slots, busy a = true → busy b = true → busy c = true →
      R a b → R a c → R b c → False) : slots.countP busy ≤ 2 := by
  have pairs : (slots.filter busy).Pairwise R := by
    refine List.Pairwise.imp_of_mem (fun inA inB pair => ?_) (List.Pairwise.filter busy related)
    exact pair (List.mem_filter.mp inA).2 (List.mem_filter.mp inB).2
  have inside : ∀ slot ∈ slots.filter busy, slot ∈ slots ∧ busy slot = true := fun slot member =>
    List.mem_filter.mp member
  rw [List.countP_eq_length_filter]
  match slots.filter busy, pairs, inside with
  | [], _, _ => exact Nat.zero_le 2
  | [_], _, _ => exact Nat.le_succ 1
  | [_, _], _, _ => exact Nat.le_refl 2
  | a :: b :: c :: rest, pairs, inside =>
    obtain ⟨fromA, later⟩ := List.pairwise_cons.mp pairs
    obtain ⟨fromB, _⟩ := List.pairwise_cons.mp later
    have memA := inside a (by simp)
    have memB := inside b (by simp)
    have memC := inside c (by simp)
    exact (noThree a memA.1 b memB.1 c memC.1 memA.2 memB.2 memC.2 (fromA b (by simp))
      (fromA c (by simp)) (fromB c (by simp))).elim

/-! ### Releasing -/

/-- Some of the slots were released, the others stay. -/
def Released (release : α → α) (slots slots' : List α) : Prop :=
  List.Forall₂ (fun slot slot' => slot' = slot ∨ slot' = release slot) slots slots'

namespace Released

variable {release : α → α} {slots slots' slots'' : List α}

theorem refl (slots : List α) : Released release slots slots :=
  List.forall₂_same.mpr fun _ _ => .inl rfl

/-- Releasing the slots a test picks. -/
theorem map (picked : α → Prop) [DecidablePred picked] (slots : List α) :
    Released release slots (slots.map fun slot => if picked slot then release slot else slot) := by
  rw [Released, List.forall₂_map_right_iff, List.forall₂_same]
  intro slot _
  by_cases pick : picked slot
  · exact .inr (if_pos pick)
  · exact .inl (if_neg pick)

theorem trans (again : ∀ slot, release (release slot) = release slot)
    (first : Released release slots slots') (second : Released release slots' slots'') :
    Released release slots slots'' := by
  induction first generalizing slots'' with
  | nil => exact second
  | cons head _ ih =>
    cases second with
    | cons head' tail' =>
      refine List.Forall₂.cons ?_ (ih tail')
      rcases head' with rfl | rfl
      · exact head
      · rcases head with rfl | rfl
        · exact .inr rfl
        · exact .inr (again _)

theorem length_eq (released : Released release slots slots') : slots'.length = slots.length :=
  (List.Forall₂.length_eq released).symm

variable (frees : ∀ slot, busy (release slot) = false)
include frees

/-- A busy slot was there before. -/
theorem getElem? (released : Released release slots slots') {index : Nat} {slot : α}
    (at' : slots'[index]? = some slot) (used : busy slot = true) : slots[index]? = some slot := by
  induction released generalizing index with
  | nil => exact at'
  | cons head _ ih =>
    cases index with
    | zero =>
      rw [List.getElem?_cons_zero, Option.some.injEq] at at' ⊢
      subst at'
      rcases head with rfl | rfl
      · rfl
      · rw [frees] at used
        cases used
    | succ index => exact ih at'

theorem mem (released : Released release slots slots') {slot : α} (inside : slot ∈ slots')
    (used : busy slot = true) : slot ∈ slots := by
  obtain ⟨index, at'⟩ := List.mem_iff_getElem?.mp inside
  exact List.mem_of_getElem? (released.getElem? frees at' used)

theorem busyPairs {R : α → α → Prop} (released : Released release slots slots')
    (related : BusyPairs busy R slots) : BusyPairs busy R slots' := by
  induction released with
  | nil => exact related
  | cons head tail ih =>
    obtain ⟨first, rest⟩ := List.pairwise_cons.mp related
    refine List.pairwise_cons.mpr ⟨fun other inside used usedOther => ?_, ih rest⟩
    rcases head with rfl | rfl
    · exact first other (mem frees tail inside usedOther) used usedOther
    · rw [frees] at used
      cases used

end Released

/-! ### Lists with the same busy slots -/

/-- The busy slots hold the same; what an idle slot holds may differ. -/
def SameBusy (busy : α → Bool) (slots slots' : List α) : Prop :=
  List.Forall₂ (fun slot slot' => slot = slot' ∨ busy slot = false ∧ busy slot' = false) slots slots'

/-- What a slot holds when it is busy. -/
def shown (busy : α → Bool) (slot : α) : Option α := if busy slot then some slot else none

namespace SameBusy

variable {slots slots' : List α}

theorem refl (slots : List α) : SameBusy busy slots slots :=
  List.forall₂_same.mpr fun _ _ => .inl rfl

/-- Idle slots are the same, whatever they hold. -/
theorem of_idle (size : slots.length = slots'.length) (idle : ∀ slot ∈ slots, busy slot = false)
    (idle' : ∀ slot ∈ slots', busy slot = false) : SameBusy busy slots slots' := by
  refine List.forall₂_iff_get.mpr ⟨size, fun index inside inside' => .inr ⟨?_, ?_⟩⟩
  · exact idle _ (List.get_mem slots _)
  · exact idle' _ (List.get_mem slots' _)

theorem map {f : α → α} (keeps : ∀ slot, busy slot = false → busy (f slot) = false)
    (same : SameBusy busy slots slots') : SameBusy busy (slots.map f) (slots'.map f) := by
  rw [SameBusy, List.forall₂_map_left_iff, List.forall₂_map_right_iff]
  refine List.Forall₂.imp (fun slot slot' related => ?_) same
  rcases related with rfl | ⟨idle, idle'⟩
  · exact .inl rfl
  · exact .inr ⟨keeps slot idle, keeps slot' idle'⟩

theorem map_shown (same : SameBusy busy slots slots') :
    slots.map (shown busy) = slots'.map (shown busy) := by
  induction same with
  | nil => rfl
  | cons head _ ih =>
    rw [List.map_cons, List.map_cons, ih]
    rcases head with rfl | ⟨idle, idle'⟩
    · rfl
    · rw [shown, shown, idle, idle']
      rfl

theorem any {test : α → Bool} (onlyBusy : ∀ slot, busy slot = false → test slot = false)
    (same : SameBusy busy slots slots') : slots.any test = slots'.any test := by
  induction same with
  | nil => rfl
  | cons head _ ih =>
    rw [List.any_cons, List.any_cons, ih]
    rcases head with rfl | ⟨idle, idle'⟩
    · rfl
    · rw [onlyBusy _ idle, onlyBusy _ idle']

/-- Both lists have a free slot at the same place, or neither has one. -/
theorem fillFirst (same : SameBusy busy slots slots') (value : α) :
    (Slots.fillFirst busy value slots = none ∧ Slots.fillFirst busy value slots' = none) ∨
      ∃ filled filled', Slots.fillFirst busy value slots = some filled ∧
        Slots.fillFirst busy value slots' = some filled' ∧ SameBusy busy filled filled' := by
  induction same with
  | nil => exact .inl ⟨rfl, rfl⟩
  | @cons slot slot' rest rest' head tail ih =>
    unfold Slots.fillFirst
    by_cases used : busy slot = true
    · rcases head with rfl | ⟨idle, _⟩
      · rw [if_pos used, if_pos used]
        rcases ih with ⟨full, full'⟩ | ⟨filled, filled', taken, taken', related⟩
        · rw [full, full']
          exact .inl ⟨rfl, rfl⟩
        · rw [taken, taken']
          exact .inr ⟨_, _, rfl, rfl, List.Forall₂.cons (.inl rfl) related⟩
      · rw [idle] at used
        cases used
    · have used' : ¬ busy slot' = true := by
        rcases head with rfl | ⟨_, idle'⟩
        · exact used
        · rw [idle']
          exact Bool.false_ne_true
      rw [if_neg used, if_neg used']
      exact .inr ⟨_, _, rfl, rfl, List.Forall₂.cons (.inl rfl) tail⟩

end SameBusy

end Slots
