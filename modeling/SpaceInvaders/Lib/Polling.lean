/-
**Bounded polling.**

A loop asks again and again, at most `trys` times, until an answer is ready; it stops early when a
question fails. `FirstReady answers ready start trys call answer` says that it ends well at `call`,
with that answer, the questions being numbered. An induction on `trys` goes by `not_firstReady_zero`
and `firstReady_succ_iff`, one round of the loop.
-/

import Mathlib.Data.Option.Basic

namespace Polling

variable {α : Type*}

/-- Of the `trys` questions from `start`, the one at `call` is the first with a ready answer, and none
before it fails. -/
structure FirstReady (answers : Nat → Option α) (ready : α → Prop) (start trys call : Nat)
    (answer : α) : Prop where
  started : start ≤ call
  inTime : call < start + trys
  busy : ∀ earlier, start ≤ earlier → earlier < call → ∃ busy, answers earlier = some busy ∧ ¬ ready busy
  answered : answers call = some answer
  ready : ready answer

variable {answers : Nat → Option α} {ready : α → Prop} {start trys call : Nat} {answer : α}

theorem not_firstReady_zero : ¬ FirstReady answers ready start 0 call answer :=
  fun first => absurd first.inTime (Nat.not_lt.mpr first.started)

/-- **One round**: the first answer is ready, or it is not and the loop goes on. -/
theorem firstReady_succ_iff :
    FirstReady answers ready start (trys + 1) call answer ↔
      ∃ now, answers start = some now ∧
        (ready now ∧ call = start ∧ answer = now ∨
          ¬ ready now ∧ FirstReady answers ready (start + 1) trys call answer) := by
  constructor
  · intro first
    rcases Nat.eq_or_lt_of_le first.started with rfl | later
    · exact ⟨answer, first.answered, .inl ⟨first.ready, rfl, rfl⟩⟩
    · obtain ⟨now, asked, busy⟩ := first.busy start (Nat.le_refl _) later
      refine ⟨now, asked, .inr ⟨busy, later, ?_, fun earlier from_next => ?_, first.answered,
        first.ready⟩⟩
      · rw [Nat.add_right_comm]
        exact first.inTime
      · exact first.busy earlier (Nat.le_of_succ_le from_next)
  · rintro ⟨now, asked, ⟨isReady, rfl, rfl⟩ | ⟨busy, first⟩⟩
    · exact ⟨Nat.le_refl _, Nat.lt_add_of_pos_right (Nat.succ_pos trys),
        fun earlier early late => absurd late (Nat.not_lt.mpr early), asked, isReady⟩
    · refine ⟨Nat.le_of_succ_le first.started, ?_, fun earlier early late => ?_, first.answered,
        first.ready⟩
      · rw [← Nat.add_assoc, Nat.add_right_comm]
        exact first.inTime
      · rcases Nat.eq_or_lt_of_le early with rfl | next
        · exact ⟨now, asked, busy⟩
        · exact first.busy earlier next late

end Polling
