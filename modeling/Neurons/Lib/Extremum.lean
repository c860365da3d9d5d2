import Mathlib.Data.List.MinMax

/-! # The least of a list

Where a key tells the items apart, the item of the least key depends only on which items there
are: not on their order, nor on how often one is listed, nor on whether the least of some of them
was taken before.
-/

namespace Neurons.Lib

variable {α β : Type} [LinearOrder β] {key : α → β} (apart : Function.Injective key) {l l' : List α} {a : α}

include apart

theorem argmin_eq_some_iff : l.argmin key = some a ↔ a ∈ l ∧ ∀ b ∈ l, key a ≤ key b := by
  constructor
  · intro least
    exact ⟨List.argmin_mem least, fun b mem => List.le_of_mem_argmin mem least⟩
  · rintro ⟨mem, below⟩
    cases found : l.argmin key with
    | none =>
        rw [List.argmin_eq_none] at found
        rw [found] at mem
        cases mem
    | some b =>
        have first := List.le_of_mem_argmin mem found
        have second := below b (List.argmin_mem found)
        rw [apart (le_antisymm first second)]

theorem argmin_eq_of_mem_iff (same : ∀ a, a ∈ l ↔ a ∈ l') : l.argmin key = l'.argmin key := by
  cases found : l.argmin key with
  | none =>
      rw [List.argmin_eq_none] at found
      rw [eq_comm, List.argmin_eq_none, List.eq_nil_iff_forall_not_mem]
      intro a mem
      rw [← same, found] at mem
      cases mem
  | some a =>
      rw [argmin_eq_some_iff apart] at found
      rw [eq_comm, argmin_eq_some_iff apart]
      exact ⟨(same a).mp found.1, fun b mem => found.2 b ((same b).mpr mem)⟩

/-- The least of some of the items stands for all of them. -/
theorem argmin_absorb : ((l.argmin key).toList ++ l').argmin key = (l ++ l').argmin key := by
  cases found : l.argmin key with
  | none =>
      rw [List.argmin_eq_none] at found
      rw [found]
      rfl
  | some a =>
      obtain ⟨listed, below⟩ := (argmin_eq_some_iff apart).mp found
      cases least : (l ++ l').argmin key with
      | none =>
          rw [List.argmin_eq_none] at least
          rw [List.append_eq_nil_iff.mp least |>.1] at listed
          cases listed
      | some b =>
          obtain ⟨mem, under⟩ := (argmin_eq_some_iff apart).mp least
          rw [argmin_eq_some_iff apart]
          constructor
          · rcases List.mem_append.mp mem with first | second
            · have same := apart (le_antisymm (under a (List.mem_append_left _ listed)) (below b first))
              simp [same]
            · exact List.mem_append_right _ second
          · intro c mem
            rcases List.mem_append.mp mem with first | second
            · rw [Option.toList_some, List.mem_singleton] at first
              exact under c (List.mem_append_left _ (first ▸ listed))
            · exact under c (List.mem_append_right _ second)

end Neurons.Lib
