import Mathlib.Data.Nat.Notation

/-! # Loops that may not end

A `while True` loop is run with a number of rounds, `none` standing for a run that
was cut off. A computation settles on a result when every large enough number of
rounds gives it and no number gives another; it never ends when every number is too
small. The loop's body may contain loops of its own, so it is given fuel too.
-/

namespace Neurons.Lib

variable {σ α β ε : Type}

/-- What one round of a loop does: it goes round again or leaves with a result. -/
inductive Round (σ α : Type)
  | again (s : σ)
  | leave (a : α)

/-- At most `rounds` rounds of a loop. -/
def loop (body : σ → Option (Except ε (Round σ α))) : ℕ → σ → Option (Except ε α)
  | 0, _ => none
  | rounds + 1, s =>
      match body s with
      | none => none
      | some (.error e) => some (.error e)
      | some (.ok (.leave a)) => some (.ok a)
      | some (.ok (.again s')) => loop body rounds s'

/-! ## Ending and not ending -/

/-- The computation ends, with a result or with an error. -/
def Halts (f : ℕ → Option β) : Prop := ∃ fuel, (f fuel).isSome

def NeverEnds (f : ℕ → Option β) : Prop := ∀ fuel, f fuel = none

/-- The computation ends, and it ends with `r`. -/
structure Settles (f : ℕ → Option β) (r : β) : Prop where
  eventually : ∃ least, ∀ fuel ≥ least, f fuel = some r
  only : ∀ fuel x, f fuel = some x → x = r

theorem Settles.halts {f : ℕ → Option β} {r : β} (settles : Settles f r) : Halts f := by
  obtain ⟨least, enough⟩ := settles.eventually
  exact ⟨least, Option.isSome_of_eq_some (enough least (Nat.le_refl least))⟩

theorem NeverEnds.not_halts {f : ℕ → Option β} (never : NeverEnds f) : ¬ Halts f := by
  rintro ⟨fuel, ended⟩
  simp [never fuel] at ended

theorem Settles.const (r : β) : Settles (fun _ => some r) r where
  eventually := ⟨0, fun _ _ => rfl⟩
  only := fun _ _ same => (Option.some.inj same).symm

/-- What is computed from the result settles with it. -/
theorem Settles.map {γ : Type} {f : ℕ → Option β} {r : β} (settles : Settles f r) (g : β → γ) :
    Settles (fun fuel => (f fuel).map g) (g r) where
  eventually := by
    obtain ⟨least, enough⟩ := settles.eventually
    exact ⟨least, fun fuel big => by simp [enough fuel big]⟩
  only := by
    intro fuel x given
    obtain ⟨y, found, rfl⟩ := Option.map_eq_some_iff.mp given
    rw [settles.only fuel y found]

/-! ## Rules for a loop -/

section Rules

variable (body : ℕ → σ → Option (Except ε (Round σ α)))

/-- From this state the loop ends with `r`, whatever large fuel and number of rounds it has. -/
structure Ends (s : σ) (r : Except ε α) : Prop where
  eventually : ∃ least, ∀ fuel ≥ least, ∀ rounds ≥ least, loop (body fuel) rounds s = some r
  only : ∀ fuel rounds x, loop (body fuel) rounds s = some x → x = r

/-- From this state the loop does not end. -/
def Spins (s : σ) : Prop := ∀ fuel rounds, loop (body fuel) rounds s = none

variable {body} {s s' : σ} {r : Except ε α}

variable (body) in
theorem Ends.settles (ends : Ends body s r) : Settles (fun fuel => loop (body fuel) fuel s) r where
  eventually := by
    obtain ⟨least, enough⟩ := ends.eventually
    exact ⟨least, fun fuel big => enough fuel big fuel big⟩
  only := fun fuel x => ends.only fuel fuel x

variable (body) in
theorem Spins.neverEnds (spins : Spins body s) : NeverEnds (fun fuel => loop (body fuel) fuel s) :=
  fun fuel => spins fuel fuel

theorem Ends.leave {a : α} (settles : Settles (body · s) (.ok (.leave a))) : Ends body s (.ok a) where
  eventually := by
    obtain ⟨least, enough⟩ := settles.eventually
    refine ⟨least + 1, fun fuel big rounds many => ?_⟩
    obtain ⟨rounds, rfl⟩ : ∃ n, rounds = n + 1 := ⟨rounds - 1, by omega⟩
    simp only [loop, enough fuel (by omega)]
  only := by
    intro fuel rounds x ended
    cases rounds with
    | zero => cases ended
    | succ rounds =>
        rw [loop] at ended
        cases given : body fuel s with
        | none => simp [given] at ended
        | some step =>
            rw [settles.only fuel step given] at given
            simpa [given] using ended.symm

theorem Ends.raise {e : ε} (settles : Settles (body · s) (.error e)) : Ends body s (.error e) where
  eventually := by
    obtain ⟨least, enough⟩ := settles.eventually
    refine ⟨least + 1, fun fuel big rounds many => ?_⟩
    obtain ⟨rounds, rfl⟩ : ∃ n, rounds = n + 1 := ⟨rounds - 1, by omega⟩
    simp only [loop, enough fuel (by omega)]
  only := by
    intro fuel rounds x ended
    cases rounds with
    | zero => cases ended
    | succ rounds =>
        rw [loop] at ended
        cases given : body fuel s with
        | none => simp [given] at ended
        | some step =>
            rw [settles.only fuel step given] at given
            simpa [given] using ended.symm

theorem Ends.again (settles : Settles (body · s) (.ok (.again s'))) (ends : Ends body s' r) : Ends body s r where
  eventually := by
    obtain ⟨least, enough⟩ := settles.eventually
    obtain ⟨least', enough'⟩ := ends.eventually
    refine ⟨max least least' + 1, fun fuel big rounds many => ?_⟩
    obtain ⟨rounds, rfl⟩ : ∃ n, rounds = n + 1 := ⟨rounds - 1, by omega⟩
    simp only [loop, enough fuel (by omega)]
    exact enough' fuel (by omega) rounds (by omega)
  only := by
    intro fuel rounds x ended
    cases rounds with
    | zero => cases ended
    | succ rounds =>
        rw [loop] at ended
        cases given : body fuel s with
        | none => simp [given] at ended
        | some step =>
            rw [settles.only fuel step given] at given
            rw [given] at ended
            exact ends.only fuel rounds x ended

theorem Spins.stuck (never : NeverEnds (body · s)) : Spins body s := by
  intro fuel rounds
  cases rounds with
  | zero => rfl
  | succ rounds =>
      have stuck : body fuel s = none := never fuel
      simp only [loop, stuck]

theorem Spins.again (settles : Settles (body · s) (.ok (.again s'))) (spins : Spins body s') : Spins body s := by
  intro fuel rounds
  cases rounds with
  | zero => rfl
  | succ rounds =>
      rw [loop]
      cases given : body fuel s with
      | none => rfl
      | some step =>
          rw [settles.only fuel step given]
          exact spins fuel rounds

/-- A loop that only goes round inside a set never ends. -/
theorem Spins.of_invariant (inside : σ → Prop)
    (round : ∀ s, inside s → ∃ s', inside s' ∧ ∀ fuel, body fuel s = some (.ok (.again s')))
    (start : inside s) : Spins body s := by
  intro fuel rounds
  induction rounds generalizing s with
  | zero => rfl
  | succ rounds ih =>
      obtain ⟨s', stays, step⟩ := round s start
      simp only [loop, step fuel]
      exact ih stays

end Rules

/-- What holds before every round holds of the state the loop leaves from. -/
theorem loop_ok {body : σ → Option (Except ε (Round σ α))} (invariant : σ → Prop) (leaves : α → Prop)
    (again : ∀ s s', invariant s → body s = some (.ok (.again s')) → invariant s')
    (leave : ∀ s a, invariant s → body s = some (.ok (.leave a)) → leaves a)
    {rounds : ℕ} {s : σ} {a : α} (start : invariant s) (ended : loop body rounds s = some (.ok a)) : leaves a := by
  induction rounds generalizing s with
  | zero => cases ended
  | succ rounds ih =>
      rw [loop] at ended
      cases step : body s with
      | none => simp [step] at ended
      | some outcome =>
          rw [step] at ended
          match outcome, ended with
          | .ok (.leave b), ended =>
              obtain rfl : b = a := by simpa using ended
              exact leave s b start step
          | .ok (.again s'), ended => exact ih (again s s' start step) ended

end Neurons.Lib
