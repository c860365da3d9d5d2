import Mathlib.Data.List.InsertIdx
import Mathlib.Data.List.MinMax
import Mathlib.Data.List.Nodup
import Mathlib.Data.Prod.Lex
import Mathlib.Logic.Function.Iterate

/-! # Trimming to a budget

A loop takes something away as long as the rest exceeds a budget and there is something to take.
Where it takes the item of the lowest rank from a list, the last one among equals, the rest is the
front of the list exactly when the front ranks no lower than what was behind it.
-/

namespace Neurons.Lib

/-! ## The loop -/

section Trim

variable {α : Type}

/-- Each step leaves something smaller. -/
def Shrinks (step : α → Option α) (size : α → ℕ) : Prop :=
  ∀ a b, step a = some b → size b < size a

/-- Take steps while the budget is exceeded and there is a step to take. -/
def trimWhile (exceeds : α → Bool) {step : α → Option α} {size : α → ℕ} (shrinks : Shrinks step size) (a : α) : α :=
  if exceeds a then
    match _stepped : step a with
    | none => a
    | some b => trimWhile exceeds shrinks b
  else a
termination_by size a
decreasing_by exact shrinks a b _stepped

/-- Take a step where there is one. -/
def advance (step : α → Option α) (a : α) : α := (step a).getD a

variable {exceeds : α → Bool} {step : α → Option α} {size : α → ℕ} (shrinks : Shrinks step size)

theorem trimWhile_of_fits {a : α} (fits : exceeds a = false) : trimWhile exceeds shrinks a = a := by
  rw [trimWhile, if_neg (by simp [fits])]

theorem trimWhile_of_stuck {a : α} (stuck : step a = none) : trimWhile exceeds shrinks a = a := by
  rw [trimWhile]
  split
  · split
    · rfl
    · next stepped =>
        rw [stuck] at stepped
        cases stepped
  · rfl

theorem trimWhile_step {a b : α} (big : exceeds a = true) (stepped : step a = some b) :
    trimWhile exceeds shrinks a = trimWhile exceeds shrinks b := by
  conv_lhs => rw [trimWhile, if_pos big]
  split
  · next stuck =>
      rw [stuck] at stepped
      cases stepped
  · next b' stepped' =>
      rw [stepped] at stepped'
      cases stepped'
      rfl

theorem trimWhile_stops (a : α) :
    exceeds (trimWhile exceeds shrinks a) = false ∨ step (trimWhile exceeds shrinks a) = none := by
  fun_induction trimWhile exceeds shrinks a with
  | case1 a big ended => exact .inr ended
  | case2 a big b stepped ih => exact ih
  | case3 a fits => exact .inl (by simpa using fits)

/-- What each step keeps, the loop keeps. -/
theorem trimWhile_keeps {p : α → Prop} (keeps : ∀ a b, step a = some b → p a → p b) {a : α} (holds : p a) :
    p (trimWhile exceeds shrinks a) := by
  fun_induction trimWhile exceeds shrinks a with
  | case1 a big ended => exact holds
  | case2 a big b stepped ih => exact ih (keeps a b stepped holds)
  | case3 a fits => exact holds

/-- The loop takes steps exactly while they are needed. -/
theorem trimWhile_eq_iterate (a : α) : ∃ k, trimWhile exceeds shrinks a = (advance step)^[k] a ∧
    ∀ j < k, exceeds ((advance step)^[j] a) = true ∧ step ((advance step)^[j] a) ≠ none := by
  fun_induction trimWhile exceeds shrinks a with
  | case1 a big ended => exact ⟨0, rfl, fun j early => absurd early (Nat.not_lt_zero j)⟩
  | case2 a big b stepped ih =>
      obtain ⟨k, result, needed⟩ := ih
      have first : advance step a = b := by rw [advance, stepped, Option.getD_some]
      refine ⟨k + 1, by rw [Function.iterate_succ_apply, first, result], fun j early => ?_⟩
      cases j with
      | zero => exact ⟨big, by simp [stepped]⟩
      | succ j =>
          rw [Function.iterate_succ_apply, first]
          exact needed j (by omega)
  | case3 a fits => exact ⟨0, rfl, fun j early => absurd early (Nat.not_lt_zero j)⟩

end Trim

/-! ## Taking the lowest item -/

section Lowest

variable {α : Type} (rank : α → ℕ)

/-- The place of the lowest item, the last one among equals. -/
def lowestRanked (l : List α) : Option ℕ :=
  (List.range l.length).argmin fun i => toLex (l[i]?.elim 0 rank, l.length - i)

/-- A list of more than one item without its lowest one. -/
def dropLowest (l : List α) : Option (List α) :=
  if l.length ≤ 1 then none else (lowestRanked rank l).map l.eraseIdx

/-- No item of the front ranks lower than one behind it. -/
def RanksFirst (l : List α) (count : ℕ) : Prop :=
  ∀ a ∈ l.take count, ∀ b ∈ l.drop count, rank b ≤ rank a

instance (l : List α) (count : ℕ) : Decidable (RanksFirst rank l count) := by
  unfold RanksFirst
  infer_instance

variable {rank}

theorem lowestRanked_some {l : List α} {i : ℕ} (lowest : lowestRanked rank l = some i) :
    ∃ inside : i < l.length, ∀ j (within : j < l.length), rank l[i] ≤ rank l[j] ∧ (i < j → rank l[i] < rank l[j]) := by
  have inside : i < l.length := List.mem_range.mp (List.argmin_mem lowest)
  refine ⟨inside, fun j within => ?_⟩
  have least := List.le_of_mem_argmin (List.mem_range.mpr within) lowest
  rw [List.getElem?_eq_getElem within, List.getElem?_eq_getElem inside, Option.elim_some, Option.elim_some,
    Prod.Lex.toLex_le_toLex] at least
  constructor
  · omega
  · intro before
    omega

theorem dropLowest_some {l l' : List α} (dropped : dropLowest rank l = some l') :
    ∃ i, lowestRanked rank l = some i ∧ l' = l.eraseIdx i := by
  unfold dropLowest at dropped
  split at dropped
  · cases dropped
  · obtain ⟨i, lowest, rfl⟩ := Option.map_eq_some_iff.mp dropped
    exact ⟨i, lowest, rfl⟩

theorem dropLowest_of_long {l : List α} (long : 1 < l.length) : ∃ l', dropLowest rank l = some l' := by
  rw [dropLowest, if_neg (by omega)]
  cases lowest : lowestRanked rank l with
  | some i => exact ⟨_, rfl⟩
  | none =>
      rw [lowestRanked, List.argmin_eq_none, List.range_eq_nil] at lowest
      omega

theorem dropLowest_eq_none {l : List α} (ended : dropLowest rank l = none) : l.length ≤ 1 := by
  by_contra long
  obtain ⟨l', dropped⟩ : ∃ l', dropLowest rank l = some l' := dropLowest_of_long (Nat.lt_of_not_le long)
  rw [dropped] at ended
  cases ended

theorem dropLowest_sublist {l l' : List α} (dropped : dropLowest rank l = some l') :
    l'.Sublist l ∧ l'.length + 1 = l.length := by
  obtain ⟨i, lowest, rfl⟩ := dropLowest_some dropped
  obtain ⟨inside, -⟩ := lowestRanked_some lowest
  refine ⟨List.eraseIdx_sublist l i, ?_⟩
  rw [List.length_eraseIdx_of_lt inside]
  omega

theorem dropLowest_shrinks : Shrinks (dropLowest rank) List.length := by
  intro l l' dropped
  have size := (dropLowest_sublist dropped).2
  omega

theorem advance_dropLowest_sublist (l : List α) : (advance (dropLowest rank) l).Sublist l := by
  unfold advance
  cases dropped : dropLowest rank l with
  | none => exact List.Sublist.refl l
  | some l' => exact (dropLowest_sublist dropped).1

theorem iterate_dropLowest_sublist (k : ℕ) (l : List α) : ((advance (dropLowest rank))^[k] l).Sublist l := by
  induction k generalizing l with
  | zero => exact List.Sublist.refl l
  | succ k ih =>
      rw [Function.iterate_succ_apply]
      exact (ih _).trans (advance_dropLowest_sublist l)

/-- Each step that was taken left one item less, and never none. -/
theorem iterate_dropLowest_length {k : ℕ} {l : List α}
    (taken : ∀ j < k, dropLowest rank ((advance (dropLowest rank))^[j] l) ≠ none) :
    ((advance (dropLowest rank))^[k] l).length + k = l.length ∧ (l ≠ [] → k < l.length) := by
  induction k with
  | zero => exact ⟨rfl, fun filled => List.length_pos_iff.mpr filled⟩
  | succ k ih =>
      obtain ⟨size, -⟩ := ih fun j early => taken j (by omega)
      obtain ⟨l', dropped⟩ := Option.ne_none_iff_exists'.mp (taken k (Nat.lt_succ_self k))
      have smaller := (dropLowest_sublist dropped).2
      have long : 1 < ((advance (dropLowest rank))^[k] l).length := by
        by_contra short
        rw [dropLowest, if_pos (by omega)] at dropped
        cases dropped
      have last : (advance (dropLowest rank))^[k + 1] l = l' := by
        rw [Function.iterate_succ_apply', advance, dropped, Option.getD_some]
      rw [last]
      exact ⟨by omega, fun _ => by omega⟩

theorem mem_drop_iff {l : List α} (distinct : l.Nodup) {m : ℕ} {b : α} : b ∈ l.drop m ↔ b ∈ l ∧ b ∉ l.take m := by
  have apart := (List.nodup_append.mp ((List.take_append_drop m l).symm ▸ distinct)).2.2
  constructor
  · intro behind
    exact ⟨List.mem_of_mem_drop behind, fun front => apart b front b behind rfl⟩
  · rintro ⟨mem, behind⟩
    rw [← List.take_append_drop m l, List.mem_append] at mem
    exact mem.resolve_left behind

/-- Taking items away by rank leaves the front of a list exactly when the front ranks first. -/
theorem iterate_dropLowest_eq_take {k : ℕ} {l : List α} (distinct : l.Nodup) (short : k < l.length) :
    (advance (dropLowest rank))^[k] l = l.take (l.length - k) ↔ RanksFirst rank l (l.length - k) := by
  induction k generalizing l with
  | zero => simp [RanksFirst]
  | succ k ih =>
      obtain ⟨l', dropped⟩ : ∃ l', dropLowest rank l = some l' := dropLowest_of_long (by omega)
      obtain ⟨i, lowest, rfl⟩ := dropLowest_some dropped
      obtain ⟨inside, least⟩ := lowestRanked_some lowest
      have size : (l.eraseIdx i).length + 1 = l.length := (dropLowest_sublist dropped).2
      have first : advance (dropLowest rank) l = l.eraseIdx i := by rw [advance, dropped, Option.getD_some]
      have distinct' := distinct.sublist (List.eraseIdx_sublist l i)
      have gone : l[i] ∉ l.eraseIdx i := by
        rw [List.mem_eraseIdx_iff_getElem]
        rintro ⟨j, within, apart, same⟩
        exact apart ((distinct.getElem_inj_iff).mp same)
      have others {b : α} (mem : b ∈ l) (other : b ≠ l[i]) : b ∈ l.eraseIdx i := by
        obtain ⟨j, within, rfl⟩ := List.mem_iff_getElem.mp mem
        rw [List.mem_eraseIdx_iff_getElem]
        exact ⟨j, within, fun same => other (by simp only [same]), rfl⟩
      have rest := ih distinct' (by omega : k < (l.eraseIdx i).length)
      rw [show (l.eraseIdx i).length - k = l.length - (k + 1) by omega] at rest
      rw [Function.iterate_succ_apply, first]
      generalize count : l.length - (k + 1) = m at rest
      -- either way the lowest item stands behind the front, which is then the front without it
      have front (behind : m ≤ i) : (l.eraseIdx i).take m = l.take m := by
        rw [List.take_eraseIdx_eq_take_of_le _ _ _ behind]
      constructor
      · intro same
        have behind : m ≤ i := by
          by_contra early
          apply gone
          apply (iterate_dropLowest_sublist k (l.eraseIdx i)).subset
          rw [same, List.mem_take_iff_getElem]
          exact ⟨i, by omega, rfl⟩
        rw [← front behind] at same
        have ranked := rest.mp same
        rw [RanksFirst, front behind] at ranked
        intro a shown b cut
        obtain ⟨mem, unseen⟩ := (mem_drop_iff distinct).mp cut
        by_cases taken : b = l[i]
        · obtain ⟨j, within, rfl⟩ := List.mem_take_iff_getElem.mp shown
          rw [taken]
          exact (least j (by omega)).1
        · apply ranked a shown
          rw [mem_drop_iff distinct', front behind]
          exact ⟨others mem taken, unseen⟩
      · intro ranked
        have behind : m ≤ i := by
          by_contra early
          have higher := (least m (by omega)).2 (by omega)
          have lower := ranked l[i] (List.mem_take_iff_getElem.mpr ⟨i, by omega, rfl⟩) l[m]
            ((mem_drop_iff distinct).mpr ⟨List.getElem_mem _, fun shown => by
              obtain ⟨j, within, same⟩ := List.mem_take_iff_getElem.mp shown
              have place : j = m := (distinct.getElem_inj_iff).mp same
              omega⟩)
          omega
        rw [← front behind, rest]
        intro a shown b cut
        rw [front behind] at shown
        obtain ⟨mem, unseen⟩ := (mem_drop_iff distinct').mp cut
        rw [front behind] at unseen
        exact ranked a shown b ((mem_drop_iff distinct).mpr ⟨List.mem_of_mem_eraseIdx mem, unseen⟩)

end Lowest

end Neurons.Lib
