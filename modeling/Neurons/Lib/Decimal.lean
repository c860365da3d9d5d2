import Mathlib.Data.Nat.Find
import Mathlib.Order.Monotone.Basic
import Mathlib.Tactic.Ring

/-! # Numbers that have to be written down

A position that is written in decimal beside the text it ends takes room itself.
`cut space n` is the last position up to `n` that leaves room for its own digits.
Looking for it by correcting a guess ends there, unless the room falls in the gap
between the last number of `k` digits and the first of `k + 1`.
-/

namespace Neurons.Lib

/-- The number of decimal digits. -/
def width (n : ℕ) : ℕ := n.repr.length

theorem width_pos (n : ℕ) : 0 < width n := Nat.length_repr_pos

theorem width_le_iff {n k : ℕ} (pos : 0 < k) : width n ≤ k ↔ n < 10 ^ k := Nat.length_repr_le_iff pos

theorem width_of_lt_pow {n k : ℕ} (pos : 0 < k) (below : n < 10 ^ k) : width n ≤ k :=
  (width_le_iff pos).mpr below

theorem lt_pow_width (n : ℕ) : n < 10 ^ width n := (width_le_iff (width_pos n)).mp le_rfl

theorem width_mono {m n : ℕ} (le : m ≤ n) : width m ≤ width n :=
  (width_le_iff (width_pos n)).mpr (le.trans_lt (lt_pow_width n))

theorem width_add_two (n : ℕ) : width (n + 2) ≤ width n + 1 := by
  rw [width_le_iff (by omega), pow_succ]
  have below := lt_pow_width n
  have one := Nat.one_le_pow (width n) 10 (by omega)
  omega

/-- The width only grows at a power of ten. -/
theorem eq_pow_of_width_lt {n : ℕ} (grows : width n < width (n + 1)) : n + 1 = 10 ^ width n := by
  have below := lt_pow_width n
  have reached : ¬ n + 1 < 10 ^ width n := by
    rw [← width_le_iff (width_pos n)]
    omega
  omega

theorem width_pow (k : ℕ) : width (10 ^ k) = k + 1 := by
  apply le_antisymm
  · exact (width_le_iff (by omega)).mpr (Nat.pow_lt_pow_right (by omega) (by omega))
  · by_contra less
    have low : 10 ^ k < 10 ^ width (10 ^ k) := lt_pow_width _
    have := (Nat.pow_lt_pow_iff_right (by omega : 1 < 10)).mp low
    omega

/-- Steps of at least two outrun the width. -/
theorem width_add_lt {n d : ℕ} (two : 2 ≤ d) : width (n + d) < width n + d := by
  induction d, two using Nat.le_induction with
  | base =>
      have := width_add_two n
      omega
  | succ d two ih =>
      have := width_add_two (n + d - 1)
      have := width_mono (show n + d + 1 ≤ n + d - 1 + 2 by omega)
      have := width_mono (show n + d - 1 ≤ n + d by omega)
      rw [← Nat.add_assoc]
      omega

theorem width_add_le (n d : ℕ) : width (n + d) ≤ width n + d := by
  rcases Nat.lt_or_ge d 2 with small | two
  · have := width_add_two n
    have := width_mono (show n + 1 ≤ n + 2 by omega)
    obtain rfl | rfl : d = 0 ∨ d = 1 := by omega
    · rfl
    · omega
  · exact (width_add_lt two).le

/-! ## The last position that fits -/

def cut (space n : ℕ) : ℕ := Nat.findGreatest (fun e => e + width e ≤ space) n

/-- The space between the last number of `k` digits and the first of `k + 1`. -/
def Gap (space n : ℕ) : Prop := ∃ k, 1 ≤ k ∧ space = 10 ^ k + k ∧ 10 ^ k ≤ n

variable {space n e : ℕ}

theorem cut_le : cut space n ≤ n := Nat.findGreatest_le n

theorem cut_fits (room : 1 ≤ space) : cut space n + width (cut space n) ≤ space :=
  Nat.findGreatest_spec (P := fun e => e + width e ≤ space) (Nat.zero_le n) (by
    have : width 0 ≤ 1 := width_of_lt_pow (by omega) (by omega)
    omega)

theorem le_cut (le : e ≤ n) (fits : e + width e ≤ space) : e ≤ cut space n :=
  Nat.le_findGreatest le fits

theorem cut_mono {space' : ℕ} (more : space ≤ space') : cut space n ≤ cut space' n :=
  Nat.findGreatest_mono_left (fun _ fits => fits.trans more) n

/-- Outside a gap the last position that fits fills the space, unless it is the very end. -/
theorem cut_fills (room : 1 ≤ space) (noGap : ¬ Gap space n) :
    cut space n = n ∨ cut space n + width (cut space n) = space := by
  by_contra neither
  push Not at neither
  obtain ⟨short, loose⟩ := neither
  have inside : cut space n ≤ n := cut_le
  have fits := cut_fits (n := n) room
  have next : ¬ cut space n + 1 + width (cut space n + 1) ≤ space := by
    intro fits'
    have := le_cut (n := n) (by omega) fits'
    omega
  have wider := width_add_two (cut space n)
  have := width_mono (show cut space n + 1 ≤ cut space n + 2 by omega)
  have power := eq_pow_of_width_lt (n := cut space n) (by omega)
  apply noGap
  exact ⟨width (cut space n), width_pos _, by omega, by omega⟩

/-! ## Correcting a guess -/

/-- The end that fits the space if its number is as wide as that of `e`. -/
def correct (space n e : ℕ) : ℕ := min n (space - width e)

theorem correct_cut (room : 1 ≤ space) (noGap : ¬ Gap space n) : correct space n (cut space n) = cut space n := by
  have fits := cut_fits (n := n) room
  have inside : cut space n ≤ n := cut_le
  rw [correct]
  rcases cut_fills room noGap with end_ | full
  · omega
  · omega

/-- A guess that corrects to itself is the cut, and the space is in no gap. -/
theorem eq_cut_of_correct (fixed : correct space n e = e) (wide : width e ≤ space) :
    e = cut space n ∧ ¬ Gap space n := by
  have fits : e + width e ≤ space := by
    rw [correct] at fixed
    omega
  have inside : e ≤ n := by
    rw [← fixed]
    exact min_le_left _ _
  have full : e = n ∨ e + width e = space := by
    rw [correct] at fixed
    omega
  constructor
  · apply le_antisymm (le_cut inside fits)
    have some := width_pos e
    have fits' : cut space n + width (cut space n) ≤ space := cut_fits (by omega)
    have inside' : cut space n ≤ n := cut_le
    rcases full with rfl | full
    · exact inside'
    · by_contra less
      have := width_mono (show e ≤ cut space n by omega)
      omega
  · rintro ⟨k, pos, at_, below⟩
    have wideEnd : ∀ m, 10 ^ k ≤ m → k + 1 ≤ width m := by
      intro m le
      have := width_mono le
      rwa [width_pow] at this
    by_cases high : 10 ^ k ≤ e
    · have := wideEnd e high
      omega
    · have narrow := width_of_lt_pow pos (show e < 10 ^ k by omega)
      rcases full with rfl | full
      · omega
      · omega

/-- Guesses that differ from the cut are corrected to closer ones, until one has the cut's width. -/
theorem correct_closer (room : 1 ≤ space) (noGap : ¬ Gap space n) (inside : e ≤ n)
    (far : 2 ≤ (e - cut space n) + (cut space n - e)) :
    (correct space n e - cut space n) + (cut space n - correct space n e) <
      (e - cut space n) + (cut space n - e) := by
  have fits := cut_fits (n := n) room
  have within : cut space n ≤ n := cut_le
  have filled := cut_fills room noGap
  rw [correct]
  generalize cut space n = c at *
  rcases Nat.lt_or_ge e c with low | high
  · have slower : width (e + (c - e)) < width e + (c - e) := width_add_lt (by omega)
    rw [Nat.add_sub_cancel' low.le] at slower
    have := width_mono low.le
    omega
  · have slower : width (c + (e - c)) < width c + (e - c) := width_add_lt (by omega)
    rw [Nat.add_sub_cancel' high] at slower
    have := width_mono high
    omega

theorem width_correct (room : 1 ≤ space) (noGap : ¬ Gap space n) (inside : e ≤ n)
    (close : (e - cut space n) + (cut space n - e) ≤ 1) :
    correct space n e = cut space n ∨ width (correct space n e) = width (cut space n) := by
  have fits := cut_fits (n := n) room
  have within : cut space n ≤ n := cut_le
  have filled := cut_fills room noGap
  by_cases same : width e = width (cut space n)
  · left
    rw [← correct_cut room noGap, correct, correct, same]
  · rw [correct]
    generalize cut space n = c at *
    rcases Nat.lt_trichotomy e c with low | rfl | high
    · obtain rfl : c = e + 1 := by omega
      have := width_add_two e
      have := width_mono (show e ≤ e + 1 by omega)
      have := width_mono (show e + 1 ≤ e + 2 by omega)
      rcases filled with end_ | full
      · left
        omega
      · right
        have at_ : min n (space - width e) = min n (e + 2) := by omega
        rcases Nat.le_total n (e + 2) with short | long
        · have : width n ≤ width (e + 2) := width_mono short
          have : width (e + 1) ≤ width n := width_mono within
          rw [at_, min_eq_left short]
          omega
        · rw [at_, min_eq_right long]
          omega
    · exact absurd rfl same
    · obtain rfl : e = c + 1 := by omega
      right
      have := width_pos (c - 1)
      have := eq_pow_of_width_lt (n := c)
      have := width_mono (show c ≤ c + 1 by omega)
      have grow := width_add_two (c - 1)
      have := width_mono (show c - 1 ≤ c by omega)
      have big : 1 ≤ c := by
        by_contra zero
        obtain rfl : c = 0 := by omega
        exact same (by decide)
      have shift : c - 1 + 2 = c + 1 := by omega
      rw [shift] at grow
      have at_ : min n (space - width (c + 1)) = c - 1 := by omega
      rw [at_]
      omega

/-- What holds at the cut and is inherited from the corrected guess holds of every guess. -/
theorem correct_induction (holds : ℕ → Prop) (room : 1 ≤ space) (noGap : ¬ Gap space n)
    (base : holds (cut space n)) (step : ∀ e ≤ n, holds (correct space n e) → holds e) :
    ∀ e ≤ n, holds e := by
  intro e inside
  have corrected (e : ℕ) : correct space n e ≤ n := min_le_left _ _
  have wide (e : ℕ) (inside : e ≤ n) (same : width e = width (cut space n)) : holds e := by
    apply step e inside
    have met : correct space n e = cut space n := by
      rw [← correct_cut room noGap, correct, correct, same]
    rw [met]
    exact base
  induction distance : (e - cut space n) + (cut space n - e) using Nat.strongRecOn generalizing e with
  | _ d ih =>
      apply step e inside
      by_cases far : 2 ≤ (e - cut space n) + (cut space n - e)
      · exact ih _ (distance ▸ correct_closer room noGap inside far) _ (corrected e) rfl
      · rcases width_correct room noGap inside (by omega) with met | same
        · rw [met]
          exact base
        · exact wide _ (corrected e) same

end Neurons.Lib
