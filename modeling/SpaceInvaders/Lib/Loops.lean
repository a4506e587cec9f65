/-
**Loops that may go on for ever.**

A loop is given by its round: from a state it either goes on in another state or returns a result.
`run round fuel` goes through at most `fuel` rounds; the loop `Returns` a result when some fuel is enough
for it.

* `returns_goesOn`, `returns_done`: one round; `returns_stages`, `run_stages`: a row of them;
* `Returns.post`: what the rounds keep, the result has; `Returns.unique`: it is one;
* `never_returns`: a loop whose invariant always goes on.
-/

import Mathlib.Data.Sum.Basic

namespace Loops

variable {State Result : Type*} {round : State → State ⊕ Result} {state : State} {result : Result}

/-- The result after at most `fuel` rounds. -/
def run (round : State → State ⊕ Result) : (fuel : Nat) → State → Option Result
  | 0, _ => none
  | fuel + 1, state =>
    match round state with
    | .inl next => run round fuel next
    | .inr result => some result

/-- The loop returns this result. -/
def Returns (round : State → State ⊕ Result) (state : State) (result : Result) : Prop :=
  ∃ fuel, run round fuel state = some result

/-- A round that returns. -/
theorem returns_done {done : Result} (ends : round state = .inr done) :
    Returns round state result ↔ result = done := by
  constructor
  · rintro ⟨fuel, ran⟩
    cases fuel with
    | zero => cases ran
    | succ fuel =>
      rw [run, ends] at ran
      exact (Option.some.inj ran).symm
  · rintro rfl
    exact ⟨1, by rw [run, ends]⟩

/-- A round that goes on. -/
theorem returns_goesOn {next : State} (goesOn : round state = .inl next) :
    Returns round state result ↔ Returns round next result := by
  constructor
  · rintro ⟨fuel, ran⟩
    cases fuel with
    | zero => cases ran
    | succ fuel =>
      rw [run, goesOn] at ran
      exact ⟨fuel, ran⟩
  · rintro ⟨fuel, ran⟩
    exact ⟨fuel + 1, by rw [run, goesOn]; exact ran⟩

/-- A loop that goes through a row of stages, and returns behind the last one. -/
theorem returns_stages (stage : Nat → State) (total : Nat)
    (goesOn : ∀ count < total, round (stage count) = .inl (stage (count + 1)))
    (ends : round (stage total) = .inr result) : Returns round (stage 0) result := by
  have rest : ∀ remaining count, count + remaining = total → Returns round (stage count) result := by
    intro remaining
    induction remaining with
    | zero =>
      rintro count rfl
      exact (returns_done ends).mpr rfl
    | succ remaining ih =>
      intro count sum
      exact (returns_goesOn (goesOn count (by omega))).mpr (ih (count + 1) (by omega))
  exact rest total 0 (Nat.zero_add total)

/-- A row of stages needs one round each, and one to return. -/
theorem run_stages (stage : Nat → State) (total : Nat)
    (goesOn : ∀ count < total, round (stage count) = .inl (stage (count + 1)))
    (ends : round (stage total) = .inr result) {fuel : Nat} (enough : total < fuel) :
    run round fuel (stage 0) = some result := by
  have rest : ∀ remaining count fuel, count + remaining = total → remaining < fuel →
      run round fuel (stage count) = some result := by
    intro remaining
    induction remaining with
    | zero =>
      rintro count fuel rfl enough
      obtain ⟨less, rfl⟩ := Nat.exists_eq_succ_of_ne_zero (Nat.ne_of_gt enough)
      rw [run, show round (stage count) = _ from ends]
    | succ remaining ih =>
      intro count fuel sum enough
      obtain ⟨less, rfl⟩ := Nat.exists_eq_succ_of_ne_zero (by omega : fuel ≠ 0)
      rw [run, goesOn count (by omega)]
      exact ih (count + 1) less (by omega) (by omega)
  exact rest total 0 fuel (Nat.zero_add total) enough

/-- What every round keeps, and every return turns into the postcondition, holds of the result. -/
theorem Returns.post {P : State → Prop} {Q : Result → Prop}
    (kept : ∀ state next, P state → round state = .inl next → P next)
    (ends : ∀ state result, P state → round state = .inr result → Q result)
    (holds : P state) (returns : Returns round state result) : Q result := by
  obtain ⟨fuel, ran⟩ := returns
  induction fuel generalizing state with
  | zero => cases ran
  | succ fuel ih =>
    rw [run] at ran
    cases done : round state with
    | inl next =>
      rw [done] at ran
      exact ih (kept state next holds done) ran
    | inr result =>
      rw [done] at ran
      exact Option.some.inj ran ▸ ends state result holds done

/-- A loop returns one result. -/
theorem Returns.unique {other : Result} (returns : Returns round state result)
    (returns' : Returns round state other) : result = other := by
  refine Returns.post (P := fun state => Returns round state result)
    (Q := fun other => result = other) (fun before next inv goesOn => ?_)
    (fun before other inv ends => ?_) returns returns'
  · exact (returns_goesOn goesOn).mp inv
  · exact (returns_done ends).mp inv

/-- A loop that goes on in every state of an invariant never returns. -/
theorem never_returns {P : State → Prop}
    (goesOn : ∀ state, P state → ∃ next, round state = .inl next ∧ P next) (holds : P state) :
    ¬ Returns round state result := by
  intro returns
  refine Returns.post (Q := fun _ => False) (fun before next inv same => ?_)
    (fun before result inv same => ?_) holds returns
  · obtain ⟨other, goes, kept⟩ := goesOn before inv
    rw [goes] at same
    exact Sum.inl.inj same ▸ kept
  · obtain ⟨other, goes, _⟩ := goesOn before inv
    rw [goes] at same
    cases same

end Loops
