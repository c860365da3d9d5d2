import Mathlib.Data.List.Infix
import Mathlib.Data.List.Induction

/-! # Histories of work that is claimed by name

A piece of work is claimed by a holder, reported on by its holder, and may be put back.
Nothing but the name of the last holder tells the claims apart. A holder that never
reports can be followed by another claim, which takes the work over.
-/

namespace Neurons.Lib.Attempts

variable {H : Type}

inductive Event (H : Type) where
  | claimed (holder : H)
  | reported (holder : H) (final : Bool)
  | reset
  deriving DecidableEq, Repr

/-- What is counted since the work was last put back. -/
structure Count where
  attempts : ℕ
  takeovers : ℕ
  held : Bool
  deriving DecidableEq, Repr

def Count.zero : Count := ⟨0, 0, false⟩

def Count.next (count : Count) : Event H → Count
  | .claimed _ => ⟨count.attempts + 1, count.takeovers + (if count.held then 1 else 0), true⟩
  | .reported _ _ => { count with held := false }
  | .reset => .zero

def count (history : List (Event H)) : Count := history.foldl Count.next .zero

@[simp] theorem count_nil : count ([] : List (Event H)) = .zero := rfl

@[simp] theorem count_snoc (history : List (Event H)) (event : Event H) :
    count (history ++ [event]) = (count history).next event := by
  simp [count]

def Event.isClaim : Event H → Bool
  | .claimed _ => true
  | _ => false

def Event.isReset : Event H → Bool
  | .reset => true
  | _ => false

/-- Without a reset every claim counts. -/
theorem attempts_append {history rest : List (Event H)} (kept : ∀ event ∈ rest, event.isReset = false) :
    (count (history ++ rest)).attempts = (count history).attempts + rest.countP Event.isClaim := by
  induction rest using List.reverseRecOn with
  | nil => simp
  | append_singleton rest event ih =>
      have before := ih fun event mem => kept event (List.mem_append_left _ mem)
      have last := kept event (by simp)
      rw [← List.append_assoc, count_snoc, List.countP_append, ← Nat.add_assoc, ← before]
      cases event with
      | claimed holder => rfl
      | reported holder final => rfl
      | reset => simp [Event.isReset] at last

/-! ## Splitting a longer history -/

/-- An event of a longer history is its last one, or an event of the history before. -/
theorem split_snoc {α : Type} {history before after : List α} {last event : α}
    (split : history ++ [last] = before ++ event :: after) :
    (after = [] ∧ last = event ∧ history = before) ∨
      ∃ shorter, after = shorter ++ [last] ∧ history = before ++ event :: shorter := by
  cases after using List.reverseRecOn with
  | nil =>
      obtain ⟨same, lasts⟩ := List.append_inj' split rfl
      exact .inl ⟨rfl, by simpa using lasts, same⟩
  | append_singleton shorter final =>
      have regrouped : history ++ [last] = (before ++ event :: shorter) ++ [final] := by simpa using split
      obtain ⟨same, lasts⟩ := List.append_inj' regrouped rfl
      have here : last = final := by simpa using lasts
      exact .inr ⟨shorter, by rw [here], same⟩

/-! ## Order -/

/-- Every report is by the holder of the claim right before it, and after a final one only a
    reset follows. -/
structure Orderly (history : List (Event H)) : Prop where
  reports : ∀ before holder final after, history = before ++ .reported holder final :: after →
    ∃ earlier, before = earlier ++ [.claimed holder]
  settled : ∀ before holder after, history = before ++ .reported holder true :: after →
    after = [] ∨ ∃ later, after = .reset :: later

namespace Orderly

variable {history : List (Event H)}

theorem nil : Orderly ([] : List (Event H)) where
  reports before holder final after split := by simp at split
  settled before holder after split := by simp at split

/-- One more event: a report follows its claim, and nothing but a reset a final report. -/
theorem snoc {event : Event H} (orderly : Orderly history)
    (claimed : ∀ holder final, event = .reported holder final → ∃ earlier, history = earlier ++ [.claimed holder])
    (open_ : ∀ earlier holder, history = earlier ++ [.reported holder true] → event = .reset) :
    Orderly (history ++ [event]) where
  reports before holder final after split := by
    rcases split_snoc split with ⟨-, last, same⟩ | ⟨shorter, -, same⟩
    · exact same ▸ claimed holder final last
    · exact orderly.reports before holder final shorter same
  settled before holder after split := by
    rcases split_snoc split with ⟨ends, -, -⟩ | ⟨shorter, longer, same⟩
    · exact .inl ends
    · rcases orderly.settled before holder shorter same with rfl | ⟨later, rfl⟩
      · exact .inr ⟨[], by rw [longer, open_ before holder same]; rfl⟩
      · exact .inr ⟨later ++ [event], by rw [longer]; rfl⟩

end Orderly

/-! ## Bounds -/

/-- Between two resets there are at most `bound` claims. -/
def Within (bound : ℕ) (history : List (Event H)) : Prop :=
  ∀ before segment after, history = before ++ segment ++ after →
    (∀ event ∈ segment, event.isReset = false) → segment.countP Event.isClaim ≤ bound

theorem within_nil (bound : ℕ) : Within bound ([] : List (Event H)) := by
  intro before segment after split _
  have blank : segment = [] := by simp_all
  simp [blank]

theorem Within.snoc {bound : ℕ} {history : List (Event H)} {event : Event H} (within : Within bound history)
    (bounded : (count (history ++ [event])).attempts ≤ bound) : Within bound (history ++ [event]) := by
  intro before segment after split kept
  cases after using List.reverseRecOn with
  | nil =>
      rw [List.append_nil] at split
      rw [split, attempts_append kept] at bounded
      omega
  | append_singleton shorter final =>
      rw [← List.append_assoc] at split
      obtain ⟨same, -⟩ := List.append_inj' split rfl
      exact within before segment shorter same kept

end Neurons.Lib.Attempts
