import Mathlib.Data.List.Induction
import Neurons.Lib.Program

/-! # Looking before writing

A client that must not write over a locked thing looks at it first. The look and the write
are two calls, so a lock that another client sets between them is written over. It holds
in every schedule that sets a lock only while nobody stands between a look and a write.
-/

namespace Neurons.Lib

variable {Call : Type → Type} {ε σ ι κ : Type} {α β : Type}

namespace Prog

section

variable (exec : {β : Type} → Call β → σ → β × σ)
variable (touches writes : κ → {β : Type} → Call β → Prop) (locked : κ → σ → Prop)

/-- The next call of the program on the thing may be a write. -/
def MayWrite (key : κ) : Prog Call ε α → Prop
  | .done _ | .fail _ => False
  | .call c k => writes key c ∨ ¬ touches key c ∧ ∃ s, (k (exec c s).1).MayWrite key

/-- A call that finds the thing locked, or locks it, is not followed by a write. -/
def Heeds (key : κ) : Prog Call ε α → Prop
  | .done _ | .fail _ => True
  | .call c k => ∀ s, (touches key c → locked key (exec c s).2 →
      ¬ (k (exec c s).1).MayWrite exec touches writes key) ∧ (k (exec c s).1).Heeds key

end

variable {exec : {β : Type} → Call β → σ → β × σ}
variable {touches writes : κ → {β : Type} → Call β → Prop} {locked : κ → σ → Prop} {key : κ}

@[simp] theorem not_mayWrite_done (a : α) : ¬ (done a : Prog Call ε α).MayWrite exec touches writes key := id
@[simp] theorem not_mayWrite_fail (e : ε) : ¬ (fail e : Prog Call ε α).MayWrite exec touches writes key := id
@[simp] theorem heeds_done (a : α) : (done a : Prog Call ε α).Heeds exec touches writes locked key := trivial
@[simp] theorem heeds_fail (e : ε) : (fail e : Prog Call ε α).Heeds exec touches writes locked key := trivial

theorem MayWrite.of_bind {p : Prog Call ε α} {f : α → Prog Call ε β}
    (quiet : ∀ a, ¬ (f a).MayWrite exec touches writes key)
    (may : (p.bind f).MayWrite exec touches writes key) : p.MayWrite exec touches writes key := by
  induction p with
  | done a => exact quiet a may
  | fail e => exact may
  | call c k ih =>
      rcases may with now | ⟨untouched, s, later⟩
      · exact .inl now
      · exact .inr ⟨untouched, s, ih _ later⟩

@[simp] theorem mayWrite_attempt {p : Prog Call ε α} :
    p.attempt.MayWrite exec touches writes key ↔ p.MayWrite exec touches writes key := by
  induction p with
  | done | fail => exact Iff.rfl
  | call c k ih => simp only [attempt, MayWrite, ih]

theorem Heeds.bind {p : Prog Call ε α} {f : α → Prog Call ε β}
    (first : p.Heeds exec touches writes locked key) (rest : ∀ a, (f a).Heeds exec touches writes locked key)
    (quiet : ∀ a, ¬ (f a).MayWrite exec touches writes key) :
    (p.bind f).Heeds exec touches writes locked key := by
  induction p with
  | done a => exact rest a
  | fail e => exact first
  | call c k ih =>
      intro s
      obtain ⟨heeded, next⟩ := first s
      exact ⟨fun touched found may => heeded touched found (may.of_bind quiet), ih _ next⟩

@[simp] theorem heeds_attempt {p : Prog Call ε α} :
    p.attempt.Heeds exec touches writes locked key ↔ p.Heeds exec touches writes locked key := by
  induction p with
  | done | fail => exact Iff.rfl
  | call c k ih => simp only [attempt, Heeds, ih, mayWrite_attempt]

/-- A program that never touches the thing is no danger to its lock. -/
theorem Uses.not_mayWrite {p : Prog Call ε α} (uses : p.Uses fun c => ¬ touches key c)
    (within : ∀ {β : Type} {c : Call β}, writes key c → touches key c) :
    ¬ p.MayWrite exec touches writes key := by
  induction p with
  | done | fail => exact id
  | call c k ih =>
      rintro (now | ⟨-, s, later⟩)
      · exact uses.1 (within now)
      · exact ih _ (uses.2 _) later

theorem Uses.heeds {p : Prog Call ε α} (uses : p.Uses fun c => ¬ touches key c) :
    p.Heeds exec touches writes locked key := by
  induction p with
  | done | fail => trivial
  | call c k ih => exact fun s => ⟨fun touched => absurd touched uses.1, ih _ (uses.2 _)⟩

/-- A call on other things. -/
theorem Heeds.call_apart {c : Call β} {k : β → Prog Call ε α} (apart : ¬ touches key c)
    (rest : ∀ reply, (k reply).Heeds exec touches writes locked key) :
    (Prog.call c k).Heeds exec touches writes locked key :=
  fun _ => ⟨fun touched => absurd touched apart, rest _⟩

/-- The last call on the thing. -/
theorem Heeds.call_last {c : Call β} {k : β → Prog Call ε α}
    (within : ∀ {β : Type} {c : Call β}, writes key c → touches key c)
    (rest : ∀ reply, (k reply).Uses fun c => ¬ touches key c) :
    (Prog.call c k).Heeds exec touches writes locked key :=
  fun _ => ⟨fun _ _ => (rest _).not_mayWrite within, (rest _).heeds⟩

end Prog

section Pool

variable [DecidableEq ι] (exec : {β : Type} → Call β → σ → β × σ)
variable (touches writes : κ → {β : Type} → Call β → Prop) (locked : κ → σ → Prop)

/-- Along the schedule a thing gets locked only while the next call of no other client on it
    may be a write. -/
def Pool.Unchallenged (pool : Pool Call ε α σ ι) (schedule : List ι) : Prop :=
  ∀ first i rest, schedule = first ++ i :: rest → ∀ key,
    ¬ locked key (pool.run exec first).shared → locked key (pool.run exec (first ++ [i])).shared →
    ∀ j, j ≠ i → ¬ ((pool.run exec first).clients j).MayWrite exec touches writes key

/-- Every client heeds the locks, and none may write what is locked. -/
structure Pool.Guarded (pool : Pool Call ε α σ ι) : Prop where
  heeds : ∀ key i, (pool.clients i).Heeds exec touches writes locked key
  quiet : ∀ key, locked key pool.shared → ∀ i, ¬ (pool.clients i).MayWrite exec touches writes key

variable {exec touches writes locked} {pool : Pool Call ε α σ ι}
variable (kept : ∀ {key : κ} {β : Type} {c : Call β} {s : σ}, locked key s → ¬ writes key c → locked key (exec c s).2)

include kept in
/-- What is locked in a guarded pool stays so. -/
theorem Pool.Guarded.locked_step (guarded : pool.Guarded exec touches writes locked) {key : κ}
    (held : locked key pool.shared) (i : ι) : locked key (pool.step exec i).shared := by
  have quiet := guarded.quiet key held i
  unfold Pool.step
  cases shape : pool.clients i with
  | done | fail => exact held
  | call c k =>
      rw [shape] at quiet
      exact kept held fun write => quiet (.inl write)

variable (frame : ∀ {key : κ} {β : Type} {c : Call β} {s : σ},
  ¬ touches key c → locked key (exec c s).2 → locked key s)

include frame in
theorem Pool.Guarded.step (guarded : pool.Guarded exec touches writes locked) (i : ι)
    (unchallenged : ∀ key, ¬ locked key pool.shared → locked key (pool.step exec i).shared →
      ∀ j, j ≠ i → ¬ (pool.clients j).MayWrite exec touches writes key) :
    (pool.step exec i).Guarded exec touches writes locked := by
  cases shape : pool.clients i with
  | done | fail =>
      have still : pool.step exec i = pool := by simp only [Pool.step, shape]
      rw [still]
      exact guarded
  | call c k =>
      have moved : pool.step exec i = ⟨Function.update pool.clients i (k (exec c pool.shared).1),
          (exec c pool.shared).2⟩ := by
        simp only [Pool.step, shape]
      rw [moved] at unchallenged ⊢
      constructor
      · intro key j
        have own := guarded.heeds key i
        rw [shape] at own
        by_cases same : j = i
        · subst same
          simpa using (own pool.shared).2
        · simpa [Function.update_of_ne same] using guarded.heeds key j
      · intro key found j
        by_cases same : j = i
        · subst same
          have own := guarded.heeds key j
          rw [shape] at own
          simp only [Function.update_self]
          by_cases touched : touches key c
          · exact (own pool.shared).1 touched found
          · -- the lock was there before, and a call that leaves the thing alone brings the client no nearer
            have before := guarded.quiet key (frame touched found) j
            rw [shape] at before
            exact fun later => before (.inr ⟨touched, pool.shared, later⟩)
        · simp only [Function.update_of_ne same]
          by_cases before : locked key pool.shared
          · exact guarded.quiet key before j
          · exact unchallenged key before found j same

include frame in
theorem Pool.Guarded.run (guarded : pool.Guarded exec touches writes locked) {schedule first rest : List ι}
    (unchallenged : pool.Unchallenged exec touches writes locked schedule) (split : schedule = first ++ rest) :
    (pool.run exec first).Guarded exec touches writes locked := by
  induction first using List.reverseRecOn generalizing rest with
  | nil => exact guarded
  | append_singleton first i ih =>
      rw [List.append_assoc, List.singleton_append] at split
      have step := (ih split).step frame i fun key before after => unchallenged first i rest split key before (by
        rw [Pool.run_append]
        exact after)
      rw [Pool.run_append]
      exact step

include kept frame in
/-- Locks last along an unchallenged schedule. -/
theorem Pool.Guarded.locked_run (guarded : pool.Guarded exec touches writes locked)
    {schedule first next rest : List ι} (unchallenged : pool.Unchallenged exec touches writes locked schedule)
    (split : schedule = first ++ next ++ rest) {key : κ} (held : locked key (pool.run exec first).shared) :
    locked key (pool.run exec (first ++ next)).shared := by
  induction next using List.reverseRecOn generalizing rest with
  | nil => simpa using held
  | append_singleton next i ih =>
      have before : schedule = first ++ next ++ i :: rest := by simpa using split
      have there := (guarded.run frame unchallenged before).locked_step kept (ih before) i
      rw [← List.append_assoc, Pool.run_append]
      exact there

end Pool

end Neurons.Lib
