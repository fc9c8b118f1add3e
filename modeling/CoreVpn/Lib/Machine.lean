import Mathlib.Data.List.Basic

/-!
# Runs of deterministic machines with output

A component that answers each input and moves to a new state is a function
`step : σ → ι → ο × σ`. This file fixes what a run of such a machine is and
gives the three rules the models use about runs: an invariant preserved by
one step holds after any run, the `k`-th answer of a run is the answer of one
step from the state the first `k` inputs reach, and a relation that one step
preserves while both machines answer alike makes two machines answer every
input sequence alike (forward simulation).
-/

namespace Machine

set_option autoImplicit false

variable {σ τ ι ο : Type}

def run (step : σ → ι → ο × σ) : σ → List ι → List ο × σ
  | state, [] => ([], state)
  | state, input :: inputs =>
      ((step state input).1 :: (run step (step state input).2 inputs).1,
        (run step (step state input).2 inputs).2)

section Runs

variable (step : σ → ι → ο × σ)

@[simp] theorem run_nil (state : σ) : run step state [] = ([], state) := rfl

@[simp] theorem run_cons (state : σ) (input : ι) (inputs : List ι) :
    run step state (input :: inputs) =
      ((step state input).1 :: (run step (step state input).2 inputs).1,
        (run step (step state input).2 inputs).2) := rfl

@[simp] theorem length_run (state : σ) (inputs : List ι) :
    (run step state inputs).1.length = inputs.length := by
  induction inputs generalizing state with
  | nil => rfl
  | cons input inputs ih => simp [ih]

theorem run_append (state : σ) (front back : List ι) :
    run step state (front ++ back) =
      ((run step state front).1 ++ (run step (run step state front).2 back).1,
        (run step (run step state front).2 back).2) := by
  induction front generalizing state with
  | nil => rfl
  | cons input front ih => simp [ih]

theorem run_concat_state (state : σ) (front : List ι) (input : ι) :
    (run step state (front ++ [input])).2 = (step (run step state front).2 input).2 := by
  rw [run_append]
  rfl

theorem run_take (state : σ) (inputs : List ι) (k : Nat) :
    (run step state (inputs.take k)).1 = (run step state inputs).1.take k := by
  induction inputs generalizing state k with
  | nil => simp
  | cons input inputs ih =>
      cases k with
      | zero => rfl
      | succ k => simp [ih]

theorem run_getElem? (state : σ) (inputs : List ι) (k : Nat) (inside : k < inputs.length) :
    (run step state inputs).1[k]? = some (step (run step state (inputs.take k)).2 inputs[k]).1 := by
  induction inputs generalizing state k with
  | nil => simp at inside
  | cons input inputs ih =>
      cases k with
      | zero => rfl
      | succ k =>
          simp only [run_cons, List.getElem?_cons_succ, List.take_succ_cons, List.getElem_cons_succ]
          exact ih _ k (by simpa using inside)

theorem run_invariant (invariant : σ → Prop)
    (preserved : ∀ state input, invariant state → invariant (step state input).2)
    {state : σ} (initial : invariant state) (inputs : List ι) :
    invariant (run step state inputs).2 := by
  induction inputs generalizing state with
  | nil => exact initial
  | cons input inputs ih => exact ih (preserved state input initial)

theorem run_invariant_guarded (invariant : σ → Prop) (admissible : σ → ι → Prop)
    (preserved : ∀ state input, invariant state → admissible state input →
      invariant (step state input).2)
    {state : σ} (initial : invariant state) (inputs : List ι)
    (allowed : ∀ k (inside : k < inputs.length),
      admissible (run step state (inputs.take k)).2 inputs[k]) :
    invariant (run step state inputs).2 := by
  induction inputs generalizing state with
  | nil => exact initial
  | cons input inputs ih =>
      have first := preserved state input initial (allowed 0 (Nat.succ_pos _))
      exact ih first fun k inside => allowed (k + 1) (Nat.succ_lt_succ inside)

theorem forall_mem_run_of_invariant (invariant : σ → Prop) (property : ο → Prop)
    (preserved : ∀ state input, invariant state → invariant (step state input).2)
    (answers : ∀ state input, invariant state → property (step state input).1)
    {state : σ} (initial : invariant state) (inputs : List ι) :
    ∀ answer ∈ (run step state inputs).1, property answer := by
  induction inputs generalizing state with
  | nil => simp
  | cons input inputs ih =>
      intro answer member
      rcases List.mem_cons.mp member with rfl | later
      · exact answers state input initial
      · exact ih (preserved state input initial) answer later

theorem forall_mem_run (property : ο → Prop) (always : ∀ state input, property (step state input).1)
    (state : σ) (inputs : List ι) : ∀ answer ∈ (run step state inputs).1, property answer :=
  forall_mem_run_of_invariant step (fun _ => True) property (fun _ _ _ => trivial)
    (fun state input _ => always state input) trivial inputs

theorem run_flow_of_invariant {α : Type} (invariant : σ → Prop)
    (preserved : ∀ state input, invariant state → invariant (step state input).2)
    (supplied : ι → ο → List α) (emitted : ο → List α) (held : σ → List α)
    (conserved : ∀ state input, invariant state → emitted (step state input).1 ++ held (step state input).2 =
      held state ++ supplied input (step state input).1)
    {state : σ} (initial : invariant state) (inputs : List ι) :
    (run step state inputs).1.flatMap emitted ++ held (run step state inputs).2 =
      held state ++ (inputs.zip (run step state inputs).1).flatMap
        (fun pair => supplied pair.1 pair.2) := by
  induction inputs generalizing state with
  | nil => simp
  | cons input inputs ih =>
      have later := ih (preserved state input initial)
      simp only [run_cons, List.flatMap_cons, List.zip_cons_cons, List.append_assoc, later]
      rw [← List.append_assoc, conserved state input initial, List.append_assoc]

theorem run_flow {α : Type} (supplied : ι → ο → List α) (emitted : ο → List α)
    (held : σ → List α)
    (conserved : ∀ state input, emitted (step state input).1 ++ held (step state input).2 =
      held state ++ supplied input (step state input).1)
    (state : σ) (inputs : List ι) :
    (run step state inputs).1.flatMap emitted ++ held (run step state inputs).2 =
      held state ++ (inputs.zip (run step state inputs).1).flatMap
        (fun pair => supplied pair.1 pair.2) :=
  run_flow_of_invariant step (fun _ => True) (fun _ _ _ => trivial) supplied emitted held
    (fun state input _ => conserved state input) trivial inputs

theorem flatMap_zip_run {α : Type} (supplied : ο → List α) (state : σ) (inputs : List ι) :
    (inputs.zip (run step state inputs).1).flatMap (fun pair => supplied pair.2) =
      (run step state inputs).1.flatMap supplied := by
  induction inputs generalizing state with
  | nil => rfl
  | cons input inputs ih => simp only [run_cons, List.zip_cons_cons, List.flatMap_cons, ih]

def observe {ρ : Type} (record : ρ → ι × ο → ρ) (state : σ × ρ) (input : ι) : ο × (σ × ρ) :=
  ((step state.1 input).1, ((step state.1 input).2, record state.2 (input, (step state.1 input).1)))

theorem run_observe {ρ : Type} (record : ρ → ι × ο → ρ) (state : σ) (log : ρ) (inputs : List ι) :
    run (observe step record) (state, log) inputs =
      ((run step state inputs).1,
        ((run step state inputs).2, (inputs.zip (run step state inputs).1).foldl record log)) := by
  induction inputs generalizing state log with
  | nil => rfl
  | cons input inputs ih =>
      simp only [run_cons, observe, ih, List.zip_cons_cons, List.foldl_cons]

end Runs

/-! ## Forward simulation -/

/-- `related` is a simulation when related states give the same answer to every
input and step to related states. -/
def Simulation (related : σ → τ → Prop) (left : σ → ι → ο × σ) (right : τ → ι → ο × τ) : Prop :=
  ∀ leftState rightState input, related leftState rightState →
    (left leftState input).1 = (right rightState input).1 ∧
      related (left leftState input).2 (right rightState input).2

theorem Simulation.run {related : σ → τ → Prop} {left : σ → ι → ο × σ} {right : τ → ι → ο × τ}
    (simulation : Simulation related left right) {leftState : σ} {rightState : τ}
    (start : related leftState rightState) (inputs : List ι) :
    (Machine.run left leftState inputs).1 = (Machine.run right rightState inputs).1 ∧
      related (Machine.run left leftState inputs).2 (Machine.run right rightState inputs).2 := by
  induction inputs generalizing leftState rightState with
  | nil => exact ⟨rfl, start⟩
  | cons input inputs ih =>
      obtain ⟨sameAnswer, stillRelated⟩ := simulation leftState rightState input start
      obtain ⟨sameAnswers, finallyRelated⟩ := ih stillRelated
      simp only [run_cons, sameAnswer, sameAnswers]
      exact ⟨trivial, finallyRelated⟩

end Machine
