import Mathlib.Data.List.Nodup
import Mathlib.Data.List.Count
import Mathlib.Data.List.Perm.Basic

/-! # First of each key, and what covers a list

`firsts` keeps the first item of every key. `uncovered` keeps the items that no
item of the list is strictly above; since a strict order has no infinite chain in
a list, these cover everything in it, whatever was covered by something that is
itself covered.
-/

namespace Neurons.Lib

/-! ## First of each key -/

section Firsts

variable {α κ : Type} [DecidableEq κ] (key : α → κ)

/-- The items whose key is neither in `seen` nor that of an earlier item. -/
def firsts (seen : List κ) : List α → List α
  | [] => []
  | a :: rest => if key a ∈ seen then firsts seen rest else a :: firsts (key a :: seen) rest

variable {key} {seen : List κ} {l l' : List α}

variable (key) in
theorem firsts_sublist (seen : List κ) (l : List α) : (firsts key seen l).Sublist l := by
  fun_induction firsts key seen l with
  | case1 => exact .slnil
  | case2 seen a rest known ih => exact ih.cons a
  | case3 seen a rest fresh ih => exact ih.cons_cons a

theorem mem_keys_firsts {k : κ} : k ∈ (firsts key seen l).map key ↔ k ∈ l.map key ∧ k ∉ seen := by
  fun_induction firsts key seen l with
  | case1 => simp
  | case2 seen a rest known ih =>
      rw [ih]
      grind
  | case3 seen a rest fresh ih =>
      simp only [List.map_cons, List.mem_cons, ih]
      grind

theorem firsts_nodup : ((firsts key seen l).map key).Nodup := by
  fun_induction firsts key seen l with
  | case1 => exact .nil
  | case2 seen a rest known ih => exact ih
  | case3 seen a rest fresh ih =>
      rw [List.map_cons, List.nodup_cons]
      refine ⟨?_, ih⟩
      intro again
      rw [mem_keys_firsts] at again
      exact again.2 (by simp)

variable (key) in
/-- Every item has the key of one that is kept. -/
theorem exists_first {a : α} (mem : a ∈ l) : ∃ b ∈ firsts key [] l, key b = key a := by
  have known : key a ∈ (firsts key [] l).map key :=
    mem_keys_firsts.mpr ⟨List.mem_map_of_mem mem, by simp⟩
  exact List.mem_map.mp known

theorem firsts_eq_self (nodup : (l.map key).Nodup) (apart : ∀ a ∈ l, key a ∉ seen) :
    firsts key seen l = l := by
  fun_induction firsts key seen l with
  | case1 => rfl
  | case2 seen a rest known ih => exact absurd known (apart a (by simp))
  | case3 seen a rest fresh ih =>
      rw [List.map_cons, List.nodup_cons] at nodup
      rw [ih nodup.2]
      intro b mem again
      rcases List.mem_cons.mp again with same | old
      · exact nodup.1 (same ▸ List.mem_map_of_mem mem)
      · exact apart b (List.mem_cons_of_mem a mem) old

end Firsts

/-! ## Collecting in a loop -/

/-- A loop that adds what each item calls for has added what some item calls for. -/
theorem mem_foldl_iff {α κ : Type} {step : List κ → α → List κ} {calls : α → κ → Prop} {l : List α} {acc : List κ}
    {k : κ} (one : ∀ acc, ∀ a ∈ l, ∀ k, k ∈ step acc a ↔ k ∈ acc ∨ calls a k) :
    k ∈ l.foldl step acc ↔ k ∈ acc ∨ ∃ a ∈ l, calls a k := by
  induction l generalizing acc with
  | nil => simp
  | cons a rest ih =>
      rw [List.foldl_cons, ih fun acc b mem => one acc b (List.mem_cons_of_mem a mem), one acc a (by simp)]
      simp [or_assoc]

/-! ## What nothing is above -/

section Uncovered

variable {α : Type} (above : α → α → Prop) [DecidableRel above]

/-- The items of the list that no item of it is above. -/
def uncovered (l : List α) : List α := l.filter fun a => ∀ b ∈ l, ¬ above b a

variable {above} {l l' : List α} {a : α}

theorem mem_uncovered : a ∈ uncovered above l ↔ a ∈ l ∧ ∀ b ∈ l, ¬ above b a := by
  simp [uncovered]

variable (above) in
theorem uncovered_sublist (l : List α) : (uncovered above l).Sublist l := List.filter_sublist

/-- How many items of the list are above one. -/
def height (above : α → α → Prop) [DecidableRel above] (l : List α) (a : α) : ℕ :=
  l.countP fun b => above b a

theorem height_lt (irrefl : ∀ a, ¬ above a a) (trans : ∀ a b c, above a b → above b c → above a c)
    {b : α} (mem : b ∈ l) (covers : above b a) : height above l b < height above l a := by
  induction l with
  | nil => cases mem
  | cons c rest ih =>
      have below : height above rest b ≤ height above rest a := by
        apply List.countP_mono_left
        intro d _ beyond
        exact decide_eq_true (trans d b a (of_decide_eq_true beyond) covers)
      simp only [height, List.countP_cons] at below ih ⊢
      rcases List.mem_cons.mp mem with rfl | later
      · simp only [irrefl, covers, decide_true, decide_false, Bool.false_eq_true, if_true, if_false]
        omega
      · have lower := ih later
        by_cases beyond : above c b
        · simp only [beyond, trans c b a beyond covers, decide_true, if_true]
          omega
        · simp only [beyond, decide_false, Bool.false_eq_true, if_false]
          omega

variable (above) in
/-- Everything in the list is kept or below something that is kept. -/
theorem exists_uncovered (irrefl : ∀ a, ¬ above a a)
    (trans : ∀ a b c, above a b → above b c → above a c) (mem : a ∈ l) :
    ∃ b ∈ uncovered above l, a = b ∨ above b a := by
  induction steps : height above l a using Nat.strongRecOn generalizing a with
  | _ n ih =>
      by_cases top : ∀ b ∈ l, ¬ above b a
      · exact ⟨a, mem_uncovered.mpr ⟨mem, top⟩, .inl rfl⟩
      · push Not at top
        obtain ⟨b, other, covers⟩ := top
        have lower := height_lt irrefl trans other covers
        obtain ⟨c, kept, reach⟩ := ih _ (steps ▸ lower) other rfl
        refine ⟨c, kept, .inr ?_⟩
        rcases reach with rfl | higher
        · exact covers
        · exact trans c b a higher covers

/-- What is kept of two lists with the same keys has the same keys, if the order is one of the keys. -/
theorem mem_keys_uncovered {κ : Type} {key : α → κ}
    (ofKeys : ∀ a ∈ l, ∀ b ∈ l', key a = key b → ∀ c ∈ l, ∀ d ∈ l', key c = key d → (above a c ↔ above b d))
    (same : ∀ k, k ∈ l.map key ↔ k ∈ l'.map key) {k : κ} (mem : k ∈ (uncovered above l).map key) :
    k ∈ (uncovered above l').map key := by
  obtain ⟨a, kept, rfl⟩ := List.mem_map.mp mem
  obtain ⟨inside, top⟩ := mem_uncovered.mp kept
  obtain ⟨b, there, eq⟩ := List.mem_map.mp ((same (key a)).mp (List.mem_map_of_mem inside))
  refine List.mem_map.mpr ⟨b, mem_uncovered.mpr ⟨there, ?_⟩, eq⟩
  intro d other covers
  obtain ⟨c, here, alike⟩ := List.mem_map.mp ((same (key d)).mpr (List.mem_map_of_mem other))
  exact top c here ((ofKeys c here d other alike a inside b there eq.symm).mpr covers)

end Uncovered

end Neurons.Lib
