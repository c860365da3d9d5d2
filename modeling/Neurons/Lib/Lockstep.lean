import Neurons.Lib.Run

/-! # Two machines in lockstep

The relational reading of computations that may raise, and of machines that answer each
action. Two machines whose steps answer alike from related states, where the action meets
its condition, give the same answers along every such run and end in related states.
-/

namespace Neurons.Lib

/-! ## Computations that both return or both raise -/

section Alike

variable {ε α β γ δ : Type}

/-- Both computations raise, or both return related values. -/
def Alike (R : α → β → Prop) : Except ε α → Except ε β → Prop
  | .ok a, .ok b => R a b
  | .error _, .error _ => True
  | _, _ => False

variable {R : α → β → Prop} {S : γ → δ → Prop}

/-- A check that passes on both sides or on neither. -/
theorem Alike.guard {x y : Except ε Unit} {f : Unit → Except ε α} {g : Unit → Except ε β}
    (same : x = .ok () ↔ y = .ok ()) (rest : x = .ok () → Alike R (f ()) (g ())) :
    Alike R (x >>= f) (y >>= g) := by
  cases x with
  | ok u =>
      rw [same.mp rfl]
      exact rest rfl
  | error e =>
      cases y with
      | ok u => cases same.mpr rfl
      | error e' => trivial

/-- The same computation on both sides. -/
theorem Alike.bind_same {x : Except ε γ} {f : γ → Except ε α} {g : γ → Except ε β}
    (rest : ∀ c, x = .ok c → Alike R (f c) (g c)) : Alike R (x >>= f) (x >>= g) := by
  cases x with
  | ok c => exact rest c rfl
  | error e => trivial

theorem Alike.raise (e e' : ε) : Alike R (.error e : Except ε α) (.error e' : Except ε β) := trivial

theorem Alike.map {x : Except ε α} {y : Except ε β} {f : α → γ} {g : β → δ} (alike : Alike R x y)
    (related : ∀ a b, R a b → S (f a) (g b)) : Alike S (x.map f) (y.map g) := by
  cases x <;> cases y <;> simp_all [Alike, Except.map]

end Alike

/-! ## Machines that answer alike -/

section Machines

variable {σ τ α ω : Type} (step : σ → α → ω × σ) (step' : τ → α → ω × τ)

/-- The answers of a run. -/
def answers : σ → List α → List ω
  | _, [] => []
  | s, a :: rest => (step s a).1 :: answers (step s a).2 rest

theorem answers_append (s : σ) (actions : List α) (last : α) : answers step s (actions ++ [last]) =
    answers step s actions ++ [(step (run (fun s a => (step s a).2) s actions) last).1] := by
  induction actions generalizing s with
  | nil => rfl
  | cons a rest ih =>
      rw [List.cons_append, answers, ih]
      rfl

variable (related : σ → τ → Prop) (meets : σ → α → Prop)

theorem answers_alike
    (sim : ∀ s t a, related s t → meets s a →
      (step s a).1 = (step' t a).1 ∧ related (step s a).2 (step' t a).2)
    {s : σ} {t : τ} (start : related s t) {actions : List α}
    (along : Along (fun s a => (step s a).2) meets s actions) :
    answers step s actions = answers step' t actions ∧
      related (run (fun s a => (step s a).2) s actions) (run (fun t a => (step' t a).2) t actions) := by
  induction actions generalizing s t with
  | nil => exact ⟨rfl, start⟩
  | cons a rest ih =>
      obtain ⟨here, next⟩ := along
      obtain ⟨answer, after⟩ := sim s t a start here
      obtain ⟨others, ends⟩ := ih after next
      exact ⟨by rw [answers, answers, answer, others], ends⟩

end Machines

end Neurons.Lib
