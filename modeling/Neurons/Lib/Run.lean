import Mathlib.Init

/-! # Runs of a step function

A run is a fold of one step over the actions taken. `Along` says that every
action meets its condition in the state it is taken in; an invariant that such
steps keep holds after the whole run.
-/

namespace Neurons.Lib

variable {σ α : Type} (step : σ → α → σ)

def run (s : σ) (actions : List α) : σ := actions.foldl step s

@[simp] theorem run_nil (s : σ) : run step s [] = s := rfl
@[simp] theorem run_cons (s : σ) (a : α) (rest : List α) :
    run step s (a :: rest) = run step (step s a) rest := rfl

theorem run_append (s : σ) (first rest : List α) :
    run step s (first ++ rest) = run step (run step s first) rest :=
  List.foldl_append

/-- Every action of the run meets its condition in the state it is taken in. -/
def Along (meets : σ → α → Prop) : σ → List α → Prop
  | _, [] => True
  | s, a :: rest => meets s a ∧ Along meets (step s a) rest

instance decidableAlong (meets : σ → α → Prop) [∀ s a, Decidable (meets s a)] :
    ∀ (s : σ) (actions : List α), Decidable (Along step meets s actions)
  | _, [] => isTrue trivial
  | s, a :: rest =>
      have := decidableAlong meets (step s a) rest
      inferInstanceAs (Decidable (meets s a ∧ Along step meets (step s a) rest))

variable {step} {meets : σ → α → Prop}

theorem Along.of_forall (every : ∀ s a, meets s a) (s : σ) (actions : List α) :
    Along step meets s actions := by
  induction actions generalizing s with
  | nil => trivial
  | cons a rest ih => exact ⟨every s a, ih _⟩

theorem Along.of_mem {meets : α → Prop} {s : σ} {actions : List α}
    (every : ∀ a ∈ actions, meets a) : Along step (fun _ => meets) s actions := by
  induction actions generalizing s with
  | nil => trivial
  | cons a rest ih =>
      exact ⟨every a (by simp), ih fun b mem => every b (List.mem_cons_of_mem a mem)⟩

theorem Along.mono {also : σ → α → Prop} (weaker : ∀ s a, meets s a → also s a) {s : σ} {actions : List α}
    (along : Along step meets s actions) : Along step also s actions := by
  induction actions generalizing s with
  | nil => trivial
  | cons a rest ih => exact ⟨weaker s a along.1, ih along.2⟩

theorem Along.and {also : σ → α → Prop} {s : σ} {actions : List α}
    (first : Along step meets s actions) (second : Along step also s actions) :
    Along step (fun s a => meets s a ∧ also s a) s actions := by
  induction actions generalizing s with
  | nil => trivial
  | cons a rest ih => exact ⟨⟨first.1, second.1⟩, ih first.2 second.2⟩

/-- The invariant rule of runs. -/
theorem Along.invariant (inv : σ → Prop) (keeps : ∀ s a, meets s a → inv s → inv (step s a))
    {s : σ} {actions : List α} (along : Along step meets s actions) (start : inv s) :
    inv (run step s actions) := by
  induction actions generalizing s with
  | nil => exact start
  | cons a rest ih => exact ih along.2 (keeps s a along.1 start)

/-- An invariant every step keeps holds after every run. -/
theorem run_invariant (inv : σ → Prop) (keeps : ∀ s a, inv s → inv (step s a)) {s : σ} (start : inv s)
    (actions : List α) : inv (run step s actions) :=
  Along.invariant inv (fun s a _ => keeps s a) (Along.of_forall (fun _ _ => trivial) s actions) start

end Neurons.Lib
