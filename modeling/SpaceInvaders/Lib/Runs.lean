/-
**Runs of a deterministic event system.**

A system is a function `step : State → Input → State`; its run on a list of inputs is the left fold
of `step`. The rules the developments above it use:

* `run_invariant`, `run_kept`: a predicate every step preserves, always or under a condition, holds
  after every run;
* `Along step P s inputs`: `P` holds of the state and the input at every step of the run, which is
  how a property of whole runs is stated;
* `along_congr`, `Along.of_inductive`: an equivalence, or an implication, that holds at every state
  of an invariant holds along every run;
* `along_expand_iff`: when inputs may be replaced by lists of smaller inputs;
* `run_related`: a relation every pair of equal-input steps preserves relates the ends of two runs;
* `run_unwinding`, `outputs_unwinding`: a view that unequal runs cannot tell apart, as long as their
  public inputs agree;
* `total step weight`: the sum of a weight over the steps of a run, with the counting rule
  `run_counted`; it is the growth of a measure that every step raises by the weight (`measure_run`),
  and at most a budget that pays for every step (`total_le_of_budget`);
* `done_within`: a countdown that every step lowers, or else brings to its end, ends within what is left;
* `outputs step output`: what the steps of a run give out, with the recording rule `run_recorded` and,
  where the outputs drive another system, `run_driven`;
* `recording step output`: the system that keeps its outputs, for properties of whole histories.
-/

import Mathlib.Data.List.Forall2

namespace Runs

variable {State State' Input : Type*} {step : State → Input → State}
  {step' : State' → Input → State'}

/-- The state after the inputs, taken one after the other. -/
def run (step : State → Input → State) (state : State) (inputs : List Input) : State :=
  inputs.foldl step state

@[simp] theorem run_nil (state : State) : run step state [] = state := rfl

@[simp] theorem run_cons (state : State) (input : Input) (inputs : List Input) :
    run step state (input :: inputs) = run step (step state input) inputs := rfl

theorem run_append (state : State) (first second : List Input) :
    run step state (first ++ second) = run step (run step state first) second :=
  List.foldl_append

theorem run_snoc (state : State) (inputs : List Input) (input : Input) :
    run step state (inputs ++ [input]) = step (run step state inputs) input := by
  rw [run_append, run_cons, run_nil]

/-- What every step preserves holds after every run. -/
theorem run_invariant {Inv : State → Prop}
    (preserved : ∀ state input, Inv state → Inv (step state input))
    {state : State} (holds : Inv state) (inputs : List Input) : Inv (run step state inputs) := by
  induction inputs generalizing state with
  | nil => exact holds
  | cons input inputs ih => exact ih (preserved state input holds)

/-! ### Properties of every step of a run -/

/-- The predicate holds of the state and the input at every step of the run. -/
def Along (step : State → Input → State) (P : State → Input → Prop) : State → List Input → Prop
  | _, [] => True
  | state, input :: inputs => P state input ∧ Along step P (step state input) inputs

@[simp] theorem along_nil (P : State → Input → Prop) (state : State) : Along step P state [] :=
  trivial

@[simp] theorem along_cons {P : State → Input → Prop} {state : State} {input : Input}
    {inputs : List Input} :
    Along step P state (input :: inputs) ↔ P state input ∧ Along step P (step state input) inputs :=
  Iff.rfl

theorem along_of_forall {P : Input → Prop} {state : State} {inputs : List Input}
    (all : ∀ input ∈ inputs, P input) : Along step (fun _ input => P input) state inputs := by
  induction inputs generalizing state with
  | nil => trivial
  | cons input inputs ih =>
    exact ⟨all input List.mem_cons_self, ih fun other member => all other (List.mem_cons_of_mem _ member)⟩

theorem along_true {state : State} (inputs : List Input) :
    Along step (fun _ _ => True) state inputs :=
  along_of_forall fun _ _ => trivial

theorem along_append {P : State → Input → Prop} {state : State} {first second : List Input} :
    Along step P state (first ++ second) ↔
      Along step P state first ∧ Along step P (run step state first) second := by
  induction first generalizing state with
  | nil => simp
  | cons input inputs ih => simp [ih, and_assoc]

/-- A predicate of the state holds along a run when it holds before each of its inputs. -/
theorem along_state_iff {P : State → Prop} {state : State} {inputs : List Input} :
    Along step (fun state _ => P state) state inputs ↔
      ∀ taken < inputs.length, P (run step state (inputs.take taken)) := by
  induction inputs generalizing state with
  | nil => exact ⟨fun _ taken below => absurd below (Nat.not_lt_zero taken), fun _ => trivial⟩
  | cons input inputs ih =>
    rw [along_cons, ih]
    constructor
    · rintro ⟨here, later⟩ taken below
      cases taken with
      | zero => exact here
      | succ taken => exact later taken (Nat.lt_of_succ_lt_succ below)
    · exact fun all => ⟨all 0 (Nat.zero_lt_succ _),
        fun taken below => all (taken + 1) (Nat.succ_lt_succ below)⟩

/-- The induction rule of `Along`: from an invariant and a condition on each step, one step keeps
the invariant and has the property. -/
theorem Along.of_inductive {Inv : State → Prop} {Cond P : State → Input → Prop}
    (inductive_step : ∀ state input, Inv state → Cond state input →
      Inv (step state input) ∧ P state input)
    {state : State} (holds : Inv state) {inputs : List Input}
    (conditions : Along step Cond state inputs) : Along step P state inputs := by
  induction inputs generalizing state with
  | nil => trivial
  | cons input inputs ih =>
    obtain ⟨next, property⟩ := inductive_step state input holds conditions.1
    exact ⟨property, ih next conditions.2⟩

/-- What every step preserves under a condition holds after every run whose steps meet it. -/
theorem run_kept {Inv : State → Prop} {Cond : State → Input → Prop}
    (kept : ∀ state input, Inv state → Cond state input → Inv (step state input))
    {state : State} (holds : Inv state) {inputs : List Input}
    (conditions : Along step Cond state inputs) : Inv (run step state inputs) := by
  induction inputs generalizing state with
  | nil => exact holds
  | cons input inputs ih => exact ih (kept state input holds conditions.1) conditions.2

/-- Two step predicates that agree at the states of an invariant agree along runs. -/
theorem along_congr {Inv : State → Prop} {P Q : State → Input → Prop}
    (preserved : ∀ state input, Inv state → Inv (step state input))
    (agree : ∀ state input, Inv state → (P state input ↔ Q state input))
    {state : State} (holds : Inv state) {inputs : List Input} :
    Along step P state inputs ↔ Along step Q state inputs := by
  constructor
  · exact Along.of_inductive (fun state input inv property =>
      ⟨preserved state input inv, (agree state input inv).mp property⟩) holds
  · exact Along.of_inductive (fun state input inv property =>
      ⟨preserved state input inv, (agree state input inv).mpr property⟩) holds

/-- The expansion rule: inputs may be taken apart all through a run exactly when at each of its steps the
parts do together what the input does. -/
theorem along_expand_iff {expand : Input → List Input} {state : State} {inputs : List Input} :
    Along step (fun state input => run step state (expand input) = step state input) state inputs ↔
      ∀ taken ≤ inputs.length,
        run step state ((inputs.take taken).flatMap expand) = run step state (inputs.take taken) := by
  induction inputs generalizing state with
  | nil =>
    refine ⟨fun _ taken _ => ?_, fun _ => trivial⟩
    rw [List.take_nil]
    rfl
  | cons input inputs ih =>
    rw [along_cons, ih]
    constructor
    · rintro ⟨here, later⟩ taken within
      cases taken with
      | zero => rfl
      | succ taken =>
        rw [List.take_succ_cons, List.flatMap_cons, run_append, here, run_cons]
        exact later taken (Nat.le_of_succ_le_succ within)
    · intro all
      have here : run step state (expand input) = step state input := by
        have first := all 1 (Nat.succ_le_succ (Nat.zero_le _))
        rwa [List.take_succ_cons, List.take_zero, List.flatMap_cons, List.flatMap_nil,
          List.append_nil, run_cons, run_nil] at first
      refine ⟨here, fun taken within => ?_⟩
      have next := all (taken + 1) (Nat.succ_le_succ within)
      rwa [List.take_succ_cons, List.flatMap_cons, run_append, here, run_cons] at next

/-! ### Two runs -/

/-- What every pair of steps preserves, on an allowed input and under a condition on the first system,
relates the ends of two runs. -/
theorem run_related {Rel : State → State' → Prop} {Cond : State → Input → Prop}
    {Allowed : Input → Prop}
    (preserved : ∀ state state' input, Cond state input → Allowed input → Rel state state' →
      Rel (step state input) (step' state' input))
    {state : State} {state' : State'} (related : Rel state state') {inputs : List Input}
    (conditions : Along step Cond state inputs) (allowed : ∀ input ∈ inputs, Allowed input) :
    Rel (run step state inputs) (run step' state' inputs) := by
  induction inputs generalizing state state' with
  | nil => exact related
  | cons input inputs ih =>
    have first := preserved state state' input conditions.1 (allowed input List.mem_cons_self) related
    exact ih first conditions.2 fun other member => allowed other (List.mem_cons_of_mem _ member)

/-- The unwinding rule: a view whose next value depends on nothing but itself and what is public of the
input has the same value after any two runs whose inputs agree on what is public. -/
theorem run_unwinding {View Public : Type*} {view : State → View} {publish : Input → Public}
    (consistent : ∀ {state other input input'}, view state = view other → publish input = publish input' →
      view (step state input) = view (step other input'))
    {state other : State} (same : view state = view other) {inputs inputs' : List Input}
    (published : inputs.map publish = inputs'.map publish) :
    view (run step state inputs) = view (run step other inputs') := by
  induction inputs generalizing state other inputs' with
  | nil =>
    rw [List.map_nil, eq_comm, List.map_eq_nil_iff] at published
    rw [published]
    exact same
  | cons input inputs ih =>
    cases inputs' with
    | nil => cases published
    | cons input' inputs' =>
      obtain ⟨head, tail⟩ := List.cons.inj published
      exact ih (consistent same head) tail

/-! ### Sums over a run -/

/-- The sum of a weight over the steps of a run. -/
def total (step : State → Input → State) (weight : State → Input → Nat) : State → List Input → Nat
  | _, [] => 0
  | state, input :: inputs => weight state input + total step weight (step state input) inputs

theorem total_append (weight : State → Input → Nat) (state : State) (first second : List Input) :
    total step weight state (first ++ second) =
      total step weight state first + total step weight (run step state first) second := by
  induction first generalizing state with
  | nil => exact (Nat.zero_add _).symm
  | cons input inputs ih => rw [List.cons_append, total, ih, total, run_cons, Nat.add_assoc]

/-- The counting rule: an invariant that each step carries on with its weight added. -/
theorem run_counted {Inv : Nat → State → Prop} {Cond : State → Input → Prop}
    {weight : State → Input → Nat}
    (counted : ∀ count state input, Inv count state → Cond state input →
      Inv (count + weight state input) (step state input))
    {count : Nat} {state : State} (holds : Inv count state) {inputs : List Input}
    (conditions : Along step Cond state inputs) :
    Inv (count + total step weight state inputs) (run step state inputs) := by
  induction inputs generalizing count state with
  | nil => exact holds
  | cons input inputs ih =>
    have rest := ih (counted count state input holds conditions.1) conditions.2
    rwa [Nat.add_assoc] at rest

/-- A measure that every step raises by the weight grows by the total, while the invariant lasts. -/
theorem measure_run {Inv : State → Prop} {Cond : State → Input → Prop} {weight : State → Input → Nat}
    {measure : State → Nat}
    (raised : ∀ state input, Inv state → Cond state input →
      Inv (step state input) ∧ measure (step state input) = measure state + weight state input)
    {state : State} (holds : Inv state) {inputs : List Input}
    (conditions : Along step Cond state inputs) :
    Inv (run step state inputs) ∧
      measure (run step state inputs) = measure state + total step weight state inputs := by
  refine @run_counted _ _ _ (fun count after => Inv after ∧ measure after = count) _ _ ?_ _ _
    ⟨holds, rfl⟩ _ conditions
  intro count before input inv condition
  obtain ⟨next, grows⟩ := raised before input inv.1 condition
  exact ⟨next, by rw [grows, inv.2]⟩

/-- The budget rule: when every step is paid out of a budget, the budget bounds the total. -/
theorem total_le_of_budget {Budget : Nat → State → Prop} {Cond : State → Input → Prop}
    {weight : State → Input → Nat}
    (pays : ∀ budget state input, Budget budget state → Cond state input →
      ∃ rest, rest + weight state input ≤ budget ∧ Budget rest (step state input))
    {budget : Nat} {state : State} (holds : Budget budget state) {inputs : List Input}
    (conditions : Along step Cond state inputs) : total step weight state inputs ≤ budget := by
  induction inputs generalizing budget state with
  | nil => exact Nat.zero_le budget
  | cons input inputs ih =>
    obtain ⟨rest, paid, next⟩ := pays budget state input holds conditions.1
    have later := ih next conditions.2
    rw [total]
    omega

/-- The first of a stream of inputs, and the rest. -/
theorem run_stream_succ (state : State) (inputs : Nat → Input) (n : Nat) :
    run step state ((List.range (n + 1)).map inputs) =
      run step (step state (inputs 0)) ((List.range n).map fun k => inputs (k + 1)) := by
  rw [List.range_succ_eq_map, List.map_cons, List.map_map, run_cons]
  rfl

/-- The countdown rule: when every step leaves less of an invariant countdown, or brings the end about,
the end comes within what is left, whatever the inputs are. -/
theorem done_within {Inv : Nat → State → Prop} {Done : State → Prop}
    (counts : ∀ left state input, Inv left state →
      ∃ rest, rest + 1 ≤ left ∧ (Done (step state input) ∨ Inv rest (step state input)))
    {left : Nat} {state : State} (holds : Inv left state) (inputs : Nat → Input) :
    ∃ n ≤ left, Done (run step state ((List.range n).map inputs)) ∧
      ∀ earlier < n, ∃ rest, Inv rest (run step state ((List.range earlier).map inputs)) := by
  induction left using Nat.strongRecOn generalizing state inputs with
  | ind left ih =>
    obtain ⟨rest, less, done | next⟩ := counts left state (inputs 0) holds
    · refine ⟨1, by omega, done, fun earlier early => ?_⟩
      obtain rfl : earlier = 0 := Nat.lt_one_iff.mp early
      exact ⟨left, holds⟩
    · obtain ⟨n, few, done, before⟩ := ih rest less next fun k => inputs (k + 1)
      refine ⟨n + 1, by omega, by rw [run_stream_succ]; exact done, fun earlier early => ?_⟩
      cases earlier with
      | zero => exact ⟨left, holds⟩
      | succ earlier =>
        rw [run_stream_succ]
        exact before earlier (Nat.lt_of_succ_lt_succ early)

/-! ### Outputs of a run -/

variable {Output : Type*} {output : State → Input → Option Output}

/-- The outputs of the steps of a run, in their order; a step gives one or none. -/
def outputs (step : State → Input → State) (output : State → Input → Option Output) :
    State → List Input → List Output
  | _, [] => []
  | state, input :: inputs =>
    (output state input).toList ++ outputs step output (step state input) inputs

/-- The recording rule: an invariant that each step carries on with its output appended. -/
theorem run_recorded {Inv : List Output → State → Prop} {Cond : State → Input → Prop}
    (recorded : ∀ log state input, Inv log state → Cond state input →
      Inv (log ++ (output state input).toList) (step state input))
    {log : List Output} {state : State} (holds : Inv log state) {inputs : List Input}
    (conditions : Along step Cond state inputs) :
    Inv (log ++ outputs step output state inputs) (run step state inputs) := by
  induction inputs generalizing log state with
  | nil =>
    show Inv (log ++ []) state
    rwa [List.append_nil]
  | cons input inputs ih =>
    have rest := ih (recorded log state input holds conditions.1) conditions.2
    rwa [List.append_assoc] at rest

/-- An output is given out by one of the steps. -/
theorem exists_step_of_mem_outputs {result : Output} {state : State} {inputs : List Input}
    (member : result ∈ outputs step output state inputs) :
    ∃ before input after, inputs = before ++ input :: after ∧
      output (run step state before) input = some result := by
  induction inputs generalizing state with
  | nil => cases member
  | cons input inputs ih =>
    rcases List.mem_append.mp member with here | later
    · exact ⟨[], input, inputs, rfl, Option.mem_toList.mp here⟩
    · obtain ⟨before, other, after, split, gives⟩ := ih later
      exact ⟨input :: before, other, after, by rw [split, List.cons_append], gives⟩

/-- The outputs of a run split with its inputs. -/
theorem outputs_append (state : State) (first second : List Input) :
    outputs step output state (first ++ second) =
      outputs step output state first ++ outputs step output (run step state first) second := by
  induction first generalizing state with
  | nil => rfl
  | cons input inputs ih =>
    rw [List.cons_append, outputs, ih, outputs, run_cons, List.append_assoc]

/-- The driving rule: a view of the state that follows a machine of its own, fed with the outputs. -/
theorem run_driven {View : Type*} {view : State → View} {react : View → Output → View}
    {Inv : State → Prop} (preserved : ∀ state input, Inv state → Inv (step state input))
    (driven : ∀ state input, Inv state →
      view (step state input) = run react (view state) (output state input).toList)
    {state : State} (holds : Inv state) (inputs : List Input) :
    view (run step state inputs) = run react (view state) (outputs step output state inputs) := by
  induction inputs generalizing state with
  | nil => rfl
  | cons input inputs ih =>
    rw [run_cons, ih (preserved state input holds), driven state input holds, outputs, run_append]

/-- The unwinding rule for outputs: related outputs of every two steps that look alike. -/
theorem outputs_unwinding {View Public : Type*} {view : State → View} {publish : Input → Public}
    {Rel : Output → Output → Prop}
    (consistent : ∀ {state other input input'}, view state = view other → publish input = publish input' →
      view (step state input) = view (step other input'))
    (related : ∀ {state other input input'}, view state = view other → publish input = publish input' →
      List.Forall₂ Rel (output state input).toList (output other input').toList)
    {state other : State} (same : view state = view other) {inputs inputs' : List Input}
    (published : inputs.map publish = inputs'.map publish) :
    List.Forall₂ Rel (outputs step output state inputs) (outputs step output other inputs') := by
  induction inputs generalizing state other inputs' with
  | nil =>
    rw [List.map_nil, eq_comm, List.map_eq_nil_iff] at published
    rw [published]
    exact .nil
  | cons input inputs ih =>
    cases inputs' with
    | nil => cases published
    | cons input' inputs' =>
      obtain ⟨head, tail⟩ := List.cons.inj published
      exact List.rel_append (related same head) (ih (consistent same head) tail)

/-- The number of outputs. -/
theorem outputs_length (state : State) (inputs : List Input) :
    (outputs step output state inputs).length =
      total step (fun state input => (output state input).toList.length) state inputs := by
  induction inputs generalizing state with
  | nil => rfl
  | cons input inputs ih => rw [outputs, total, List.length_append, ih]

/-- The system that keeps the outputs of its past. -/
def recording (step : State → Input → State) (output : State → Input → Option Output) :
    List Output × State → Input → List Output × State
  | (log, state), input => (log ++ (output state input).toList, step state input)

/-- The recording system goes through the same states. -/
theorem run_recording (log : List Output) (state : State) (inputs : List Input) :
    run (recording step output) (log, state) inputs =
      (log ++ outputs step output state inputs, run step state inputs) := by
  induction inputs generalizing log state with
  | nil => simp [outputs]
  | cons input inputs ih => rw [run_cons, recording, ih, outputs, run_cons, List.append_assoc]

end Runs
