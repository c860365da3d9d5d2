import Mathlib.Data.List.Sort
import Mathlib.Data.List.MinMax
import Mathlib.Data.List.Perm.Basic

/-! # Sorting by a key

`sorted(items, key=...)` is stable, so it is an insertion sort by the key's order.
What is computed from a sorted list, a maximum or a minimum does not depend on
the order of the input when the keys tell its items apart.
-/

namespace Neurons.Lib

variable {α β : Type} [LinearOrder β]

/-- Stable sort by a key. -/
def sortOn (key : α → β) (l : List α) : List α := l.insertionSort (fun a b => key a ≤ key b)

section SortOn

variable (key : α → β)

theorem sortOn_perm (l : List α) : (sortOn key l).Perm l := List.perm_insertionSort _ l

@[simp] theorem mem_sortOn {l : List α} {a : α} : a ∈ sortOn key l ↔ a ∈ l :=
  (sortOn_perm key l).mem_iff

theorem sortOn_pairwise (l : List α) : (sortOn key l).Pairwise (fun a b => key a ≤ key b) := by
  have : IsTrans α (fun a b => key a ≤ key b) := ⟨fun _ _ _ => le_trans⟩
  have : Std.Total (fun a b : α => key a ≤ key b) := ⟨fun a b => le_total (key a) (key b)⟩
  exact List.pairwise_insertionSort _ l

/-- Items told apart by their keys have only one sorted order. -/
theorem sortOn_eq_of_perm {l l' : List α} (perm : l.Perm l')
    (apart : ∀ a ∈ l, ∀ b ∈ l, key a = key b → a = b) : sortOn key l = sortOn key l' := by
  have sorted : (sortOn key l).Perm (sortOn key l') :=
    ((sortOn_perm key l).trans perm).trans (sortOn_perm key l').symm
  refine sorted.eq_of_pairwise ?_ (sortOn_pairwise key l) (sortOn_pairwise key l')
  intro a b memA memB le ge
  exact apart a ((mem_sortOn key).mp memA) b
    (perm.mem_iff.mpr ((mem_sortOn key).mp memB)) (le_antisymm le ge)

theorem sortOn_sortOn (l : List α) : sortOn key (sortOn key l) = sortOn key l :=
  (sortOn_pairwise key l).insertionSort_eq

theorem sortOn_map {γ : Type} (f : γ → α) (l : List γ) :
    sortOn key (l.map f) = (sortOn (fun c => key (f c)) l).map f :=
  (List.map_insertionSort (fun c d => key (f c) ≤ key (f d)) (fun a b => key a ≤ key b) f l
    (fun _ _ _ _ => Iff.rfl)).symm

end SortOn

theorem insertionSort_eq_of_perm {l l' : List β} (perm : l.Perm l') :
    l.insertionSort (· ≤ ·) = l'.insertionSort (· ≤ ·) :=
  sortOn_eq_of_perm id perm (fun _ _ _ _ same => same)

theorem max?_eq_of_perm {l l' : List β} (perm : l.Perm l') : l.max? = l'.max? := by
  cases found : l.max? with
  | none =>
      rw [List.max?_eq_none_iff] at found
      subst found
      simp [perm.nil_eq.symm]
  | some a =>
      rw [List.max?_eq_some_iff] at found
      exact (List.max?_eq_some_iff.mpr
        ⟨perm.mem_iff.mp found.1, fun b mem => found.2 b (perm.mem_iff.mpr mem)⟩).symm

theorem min?_eq_of_perm {l l' : List β} (perm : l.Perm l') : l.min? = l'.min? := by
  cases found : l.min? with
  | none =>
      rw [List.min?_eq_none_iff] at found
      subst found
      simp [perm.nil_eq.symm]
  | some a =>
      rw [List.min?_eq_some_iff] at found
      exact (List.min?_eq_some_iff.mpr
        ⟨perm.mem_iff.mp found.1, fun b mem => found.2 b (perm.mem_iff.mpr mem)⟩).symm

end Neurons.Lib
