import Mathlib.Data.List.Infix
import Mathlib.Data.List.Nodup

/-! # Histories of leased work

A piece of work is claimed under a token, settled under the token of its claim, and
may be put back to start over. `Fenced` is what a token counter keeps of a history;
`Within` bounds the attempts since the work was last put back.
-/

namespace Neurons.Lib.Lease

inductive Event where
  | claimed (token : ℕ)
  | settled (token : ℕ)
  | requeued
  deriving DecidableEq, Repr

/-- The tokens of the claims, in order. -/
def claims : List Event → List ℕ :=
  List.filterMap fun event =>
    match event with
    | .claimed token => some token
    | _ => none

/-- The tokens of the settlements, in order. -/
def settlements : List Event → List ℕ :=
  List.filterMap fun event =>
    match event with
    | .settled token => some token
    | _ => none

/-- One more event of an attempt count. -/
def tally (attempts : ℕ) : Event → ℕ
  | .claimed _ => attempts + 1
  | .settled _ => attempts
  | .requeued => 0

/-- The claims since the work was last put back. -/
def attempts (history : List Event) : ℕ := history.foldl tally 0

@[simp] theorem claims_nil : claims [] = [] := rfl
@[simp] theorem claims_append (first rest : List Event) :
    claims (first ++ rest) = claims first ++ claims rest := List.filterMap_append
@[simp] theorem claims_claimed (token : ℕ) : claims [.claimed token] = [token] := rfl
@[simp] theorem claims_settled (token : ℕ) : claims [.settled token] = [] := rfl
@[simp] theorem claims_requeued : claims [.requeued] = [] := rfl
@[simp] theorem settlements_nil : settlements [] = [] := rfl
@[simp] theorem settlements_append (first rest : List Event) :
    settlements (first ++ rest) = settlements first ++ settlements rest := List.filterMap_append
@[simp] theorem settlements_claimed (token : ℕ) : settlements [.claimed token] = [] := rfl
@[simp] theorem settlements_settled (token : ℕ) : settlements [.settled token] = [token] := rfl
@[simp] theorem settlements_requeued : settlements [.requeued] = [] := rfl
@[simp] theorem attempts_nil : attempts [] = 0 := rfl
@[simp] theorem attempts_snoc (history : List Event) (event : Event) :
    attempts (history ++ [event]) = tally (attempts history) event := by
  simp [attempts]

/-- Without a fresh start every claim counts. -/
theorem attempts_append {history rest : List Event} (kept : .requeued ∉ rest) :
    attempts (history ++ rest) = attempts history + (claims rest).length := by
  induction rest using List.reverseRecOn with
  | nil => simp
  | append_singleton rest event ih =>
      have before := ih fun mem => kept (List.mem_append_left _ mem)
      rw [← List.append_assoc, attempts_snoc, before]
      cases event with
      | claimed token =>
          simp [tally]
          omega
      | settled token => simp [tally]
      | requeued => simp at kept

/-! ## Fencing -/

/-- What a token counter keeps of a history; `held` says that the last claim runs. -/
structure Fenced (history : List Event) (token : ℕ) (held : Prop) : Prop where
  increasing : (claims history).Pairwise (· < ·)
  bounded : ∀ claimed ∈ claims history, claimed ≤ token
  latest : held → (claims history).getLast? = some token
  once : (settlements history).Nodup
  spent : ∀ settled ∈ settlements history, settled ≤ token
  unsettled : held → token ∉ settlements history
  current : ∀ before settled after, history = before ++ .settled settled :: after →
    (claims before).getLast? = some settled

namespace Fenced

variable {history : List Event} {token : ℕ} {held : Prop}

theorem nil : Fenced [] token False where
  increasing := List.Pairwise.nil
  bounded := by simp
  latest := False.elim
  once := List.nodup_nil
  spent := by simp
  unsettled := False.elim
  current before settled after split := by simp at split

/-- A claim that is given up, or still runs. -/
theorem mono {still : Prop} (fenced : Fenced history token held) (weaker : still → held) :
    Fenced history token still :=
  { fenced with
    latest := fun run => fenced.latest (weaker run)
    unsettled := fun run => fenced.unsettled (weaker run) }

/-- A settlement in a longer history is an earlier one, or the event added. -/
theorem current_snoc {event : Event} (fenced : Fenced history token held)
    (last : ∀ settled, event = .settled settled → (claims history).getLast? = some settled)
    (before : List Event) (settled : ℕ) (after : List Event)
    (split : history ++ [event] = before ++ .settled settled :: after) :
    (claims before).getLast? = some settled := by
  cases after using List.reverseRecOn with
  | nil =>
      obtain ⟨rfl, same⟩ := List.append_inj' split rfl
      exact last settled (by simpa using same)
  | append_singleton after final =>
      have shorter : history = before ++ .settled settled :: after := by
        have regrouped : history ++ [event] = (before ++ .settled settled :: after) ++ [final] := by
          simpa using split
        exact (List.append_inj' regrouped rfl).1
      exact fenced.current before settled after shorter

theorem claim (fenced : Fenced history token held) :
    Fenced (history ++ [.claimed (token + 1)]) (token + 1) True where
  increasing := by
    rw [claims_append, claims_claimed, List.pairwise_append]
    refine ⟨fenced.increasing, List.pairwise_singleton _ _, fun earlier mem later same => ?_⟩
    have below := fenced.bounded earlier mem
    rw [List.mem_singleton.mp same]
    omega
  bounded claimed mem := by
    rw [claims_append, claims_claimed, List.mem_append, List.mem_singleton] at mem
    rcases mem with earlier | rfl
    · have below := fenced.bounded claimed earlier
      omega
    · exact le_rfl
  latest _ := by simp
  once := by simpa using fenced.once
  spent settled mem := by
    have below := fenced.spent settled (by simpa using mem)
    omega
  unsettled _ mem := by
    have below := fenced.spent (token + 1) (by simpa using mem)
    omega
  current := fenced.current_snoc fun settled same => by cases same

theorem settle (fenced : Fenced history token held) (run : held) :
    Fenced (history ++ [.settled token]) token False where
  increasing := by simpa using fenced.increasing
  bounded := by simpa using fenced.bounded
  latest := False.elim
  once := by
    rw [settlements_append, settlements_settled, List.nodup_append]
    refine ⟨fenced.once, List.nodup_singleton token, fun earlier mem later same differ => ?_⟩
    rw [List.mem_singleton] at same
    subst differ same
    exact fenced.unsettled run mem
  spent settled mem := by
    rw [settlements_append, settlements_settled, List.mem_append, List.mem_singleton] at mem
    rcases mem with earlier | rfl
    · exact fenced.spent settled earlier
    · exact le_rfl
  unsettled := False.elim
  current := fenced.current_snoc fun settled same => by
    cases same
    exact fenced.latest run

theorem requeue (fenced : Fenced history token held) :
    Fenced (history ++ [.requeued]) token False where
  increasing := by simpa using fenced.increasing
  bounded := by simpa using fenced.bounded
  latest := False.elim
  once := by simpa using fenced.once
  spent := by simpa using fenced.spent
  unsettled := False.elim
  current := fenced.current_snoc fun settled same => by cases same

end Fenced

/-! ## Attempts -/

/-- At no time were there more attempts since the last fresh start. -/
def Within (bound : ℕ) (history : List Event) : Prop :=
  ∀ before, before <+: history → attempts before ≤ bound

namespace Within

variable {bound : ℕ} {history : List Event}

theorem nil : Within bound [] := by
  intro before within
  rw [List.prefix_nil.mp within]
  exact Nat.zero_le bound

theorem snoc {event : Event} (within : Within bound history)
    (last : tally (attempts history) event ≤ bound) : Within bound (history ++ [event]) := by
  intro before short
  rcases List.prefix_concat_iff.mp short with whole | earlier
  · rw [whole, attempts_snoc]
    exact last
  · exact within before earlier

/-- The claims of any stretch without a fresh start. -/
theorem claims_le (within : Within bound history) {before stretch after : List Event}
    (split : history = before ++ stretch ++ after) (kept : .requeued ∉ stretch) :
    (claims stretch).length ≤ bound := by
  have counted := within (before ++ stretch) ⟨after, split.symm⟩
  rw [attempts_append kept] at counted
  omega

end Within

end Neurons.Lib.Lease
