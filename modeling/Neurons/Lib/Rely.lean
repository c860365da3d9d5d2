import Neurons.Lib.Program

/-! # Clients with their own guarantees

In a pool every client may be allowed other steps than the rest: one that only reads promises
more than one that writes. A client is judged against what the others are relied on to do, and
what it promises itself holds at each of its steps, whatever the schedule.
-/

namespace Neurons.Lib

namespace Prog

variable {Call : Type → Type} {ε σ : Type} {α β : Type}
variable (exec : {β : Type} → Call β → σ → β × σ) (rely guar : σ → σ → Prop)

/-- Started in `s` and disturbed only as relied on, every own call keeps the guarantee, and a
    normal end satisfies `post`. -/
def Guarantees (post : α → σ → Prop) : Prog Call ε α → σ → Prop
  | .done value, s => post value s
  | .fail _, _ => True
  | .call c k, s => ∀ s', rely s s' →
      guar s' (exec c s').2 ∧ (k (exec c s').1).Guarantees post (exec c s').2

variable {exec rely guar} {post : α → σ → Prop} {p : Prog Call ε α} {s s' : σ}

theorem Guarantees.bind {post : β → σ → Prop} {Q : α → σ → Prop} {f : α → Prog Call ε β}
    (first : p.Guarantees exec rely guar Q s)
    (rest : ∀ a s', Q a s' → (f a).Guarantees exec rely guar post s') :
    (p.bind f).Guarantees exec rely guar post s := by
  induction p generalizing s with
  | done a => exact rest a s first
  | fail => trivial
  | call c k ih =>
      intro s' relied
      obtain ⟨kept, later⟩ := first s' relied
      exact ⟨kept, ih _ later⟩

theorem Guarantees.tryCatch {handler : ε → Prog Call ε α} (first : p.Guarantees exec rely guar post s)
    (rest : ∀ e s', (handler e).Guarantees exec rely guar post s') :
    (p.tryCatch handler).Guarantees exec rely guar post s := by
  induction p generalizing s with
  | done a => exact first
  | fail e => exact rest e s
  | call c k ih =>
      intro s' relied
      obtain ⟨kept, later⟩ := first s' relied
      exact ⟨kept, ih _ later⟩

theorem Guarantees.weaken {post' : α → σ → Prop} (first : p.Guarantees exec rely guar post s)
    (imp : ∀ a s', post a s' → post' a s') : p.Guarantees exec rely guar post' s := by
  induction p generalizing s with
  | done a => exact imp a s first
  | fail => trivial
  | call c k ih =>
      intro s' relied
      obtain ⟨kept, later⟩ := first s' relied
      exact ⟨kept, ih _ later⟩

/-- A client goes on to guarantee what it does while the others move. -/
theorem Guarantees.disturbed (trans : ∀ {a b c}, rely a b → rely b c → rely a c)
    (stable : ∀ a s s', rely s s' → post a s → post a s') (first : p.Guarantees exec rely guar post s)
    (moved : rely s s') : p.Guarantees exec rely guar post s' := by
  cases p with
  | done a => exact stable a s s' moved first
  | fail => trivial
  | call c k =>
      intro s'' relied
      exact first s'' (trans moved relied)

theorem Guarantees.ofExcept {x : Except ε α} (ends : ∀ a, x = .ok a → post a s) :
    (Prog.ofExcept x : Prog Call ε α).Guarantees exec rely guar post s := by
  cases x with
  | ok a => exact ends a rfl
  | error e => trivial

/-- What the others leave true, and so each own call too, is true at the end. -/
theorem Guarantees.keeps {I : σ → Prop} (stable : ∀ s s', rely s s' → I s → I s')
    (allowed : ∀ s s', guar s s' → rely s s') (first : p.Guarantees exec rely guar post s) (start : I s) :
    p.Guarantees exec rely guar (fun a s' => post a s' ∧ I s') s := by
  induction p generalizing s with
  | done a => exact ⟨first, start⟩
  | fail => trivial
  | call c k ih =>
      intro s' relied
      obtain ⟨kept, later⟩ := first s' relied
      exact ⟨kept, ih _ later (stable _ _ (allowed _ _ kept) (stable _ _ relied start))⟩

/-- One program after the other, each from a state where the common condition holds. -/
theorem Guarantees.mapM {I : σ → Prop} {f : α → Prog Call ε β} {l : List α}
    (each : ∀ a ∈ l, ∀ s, I s → (f a).Guarantees exec rely guar (fun _ s' => I s') s) (start : I s) :
    (l.mapM f).Guarantees exec rely guar (fun _ s' => I s') s := by
  induction l generalizing s with
  | nil => exact start
  | cons a rest ih =>
      rw [List.mapM_cons]
      apply (each a List.mem_cons_self s start).bind
      intro b s' holds
      apply (ih (fun a' mem => each a' (List.mem_cons_of_mem a mem)) holds).bind
      intro bs s'' holds'
      exact holds'

theorem Guarantees.forM {I : σ → Prop} {f : α → Prog Call ε PUnit} {l : List α}
    (each : ∀ a ∈ l, ∀ s, I s → (f a).Guarantees exec rely guar (fun _ s' => I s') s) (start : I s) :
    (l.forM f).Guarantees exec rely guar (fun _ s' => I s') s := by
  induction l generalizing s with
  | nil => exact start
  | cons a rest ih =>
      apply (each a List.mem_cons_self s start).bind
      intro _ s' holds
      exact ih (fun a' mem => each a' (List.mem_cons_of_mem a mem)) holds

/-! ### Programs that only make harmless calls -/

theorem Uses.ofExcept {allowed : {β : Type} → Call β → Prop} (x : Except ε α) :
    (Prog.ofExcept x : Prog Call ε α).Uses allowed := by
  cases x <;> trivial

theorem Uses.mapM {allowed : {β : Type} → Call β → Prop} {f : α → Prog Call ε β} (each : ∀ a, (f a).Uses allowed)
    (l : List α) : (l.mapM f).Uses allowed := by
  induction l with
  | nil => trivial
  | cons a rest ih =>
      rw [List.mapM_cons]
      exact (each a).bind fun _ => ih.bind fun _ => trivial

theorem Uses.attempt {allowed : {β : Type} → Call β → Prop} {p : Prog Call ε α} (uses : p.Uses allowed) :
    p.attempt.Uses allowed := by
  induction p with
  | done | fail => trivial
  | call c k ih => exact ⟨uses.1, fun reply => ih reply (uses.2 reply)⟩

/-- Each call of a program that only makes harmless ones keeps the guarantee, and what it is run
    from stays as it was up to the reliance. -/
theorem Guarantees.of_uses {allowed : {β : Type} → Call β → Prop} (uses : p.Uses allowed)
    (trans : ∀ {a b c}, rely a b → rely b c → rely a c) (refl : rely s s)
    (harmless : ∀ {β : Type} (c : Call β) s, allowed c → guar s (exec c s).2 ∧ rely s (exec c s).2) :
    p.Guarantees exec rely guar (fun _ s' => rely s s') s := by
  suffices general : ∀ s₀ s, rely s₀ s → p.Guarantees exec rely guar (fun _ s' => rely s₀ s') s from
    general s s refl
  intro s₀ s moved
  induction p generalizing s with
  | done a => exact moved
  | fail => trivial
  | call c k ih =>
      intro s' relied
      obtain ⟨kept, own⟩ := harmless c s' uses.1
      exact ⟨kept, ih _ (uses.2 _) _ (trans (trans moved relied) own)⟩

end Prog

/-! ## Pools -/

section Pool

variable {Call : Type → Type} {ε σ ι : Type} {α : Type} [DecidableEq ι]
variable {exec : {β : Type} → Call β → σ → β × σ} {rely : σ → σ → Prop} {guar : ι → σ → σ → Prop}
variable {post : ι → α → σ → Prop}

/-- Every client guarantees its own steps in the state the pool is in. -/
def Pool.Guaranteed (exec : {β : Type} → Call β → σ → β × σ) (rely : σ → σ → Prop) (guar : ι → σ → σ → Prop)
    (post : ι → α → σ → Prop) (pool : Pool Call ε α σ ι) : Prop :=
  ∀ i, (pool.clients i).Guarantees exec rely (guar i) (post i) pool.shared

variable {pool : Pool Call ε α σ ι}

/-- A step of a client is one it guarantees; a finished client makes none. -/
theorem Pool.Guaranteed.step (guaranteed : pool.Guaranteed exec rely guar post) (refl : ∀ s, rely s s)
    (i : ι) (idle : ∀ s, guar i s s) : guar i pool.shared (pool.step exec i).shared := by
  have own := guaranteed i
  unfold Pool.step
  cases shape : pool.clients i with
  | done | fail => exact idle _
  | call c k =>
      rw [shape] at own
      exact (own pool.shared (refl _)).1

variable (refl : ∀ s, rely s s) (trans : ∀ {a b c}, rely a b → rely b c → rely a c)
variable (stable : ∀ i a s s', rely s s' → post i a s → post i a s')
variable (allowed : ∀ i s s', guar i s s' → rely s s')

include refl trans stable allowed

theorem Pool.Guaranteed.next (guaranteed : pool.Guaranteed exec rely guar post) (i : ι) :
    (pool.step exec i).Guaranteed exec rely guar post := by
  intro j
  have own := guaranteed i
  unfold Pool.step
  cases shape : pool.clients i with
  | done | fail => exact guaranteed j
  | call c k =>
      rw [shape] at own
      obtain ⟨kept, later⟩ := own pool.shared (refl _)
      by_cases same : j = i
      · subst same
        simpa using later
      · dsimp only
        rw [Function.update_of_ne same]
        exact (guaranteed j).disturbed trans (stable j) (allowed i _ _ kept)

/-- Whatever the schedule, every client goes on to guarantee its own steps. -/
theorem Pool.Guaranteed.run (guaranteed : pool.Guaranteed exec rely guar post) (schedule : List ι) :
    (pool.run exec schedule).Guaranteed exec rely guar post := by
  induction schedule generalizing pool with
  | nil => exact guaranteed
  | cons i rest ih => exact ih (Pool.Guaranteed.next refl trans stable allowed guaranteed i)

/-- What every scheduled client guarantees to keep, under an invariant of them all, is kept. -/
theorem Pool.Guaranteed.preserves (guaranteed : pool.Guaranteed exec rely guar post) (P : σ → Prop)
    {I : σ → Prop} (invariant : ∀ s s', rely s s' → I s → I s') (idle : ∀ i s, guar i s s)
    {schedule : List ι} (keeps : ∀ i ∈ schedule, ∀ s s', I s → guar i s s' → P s → P s')
    (start : I pool.shared) (holds : P pool.shared) : P (pool.run exec schedule).shared := by
  induction schedule generalizing pool with
  | nil => exact holds
  | cons i rest ih =>
      rw [List.forall_mem_cons] at keeps
      have next := Pool.Guaranteed.next refl trans stable allowed guaranteed i
      have step := guaranteed.step refl i (idle i)
      exact ih next keeps.2 (invariant _ _ (allowed i _ _ step) start) (keeps.1 _ _ start step holds)

end Pool

end Neurons.Lib
