import Elevation.Scalar
import Mathlib

/-!
The integer nearest to a rational. It is at most a half away, no integer is nearer, and of two that
are equally near it is the even one. Hence an integer bounds the rounded numbers from above up to a
half beyond it, and that half itself goes with an even bound.
-/

namespace Elevation

variable {q : Rat} {n : Int}

theorem abs_nearestInteger_sub_le (q : Rat) : |(nearestInteger q : Rat) - q| ≤ 1 / 2 := by
  have below := Rat.floor_le q
  have above := Rat.lt_floor_add_one q
  push_cast at above
  have parity : 0 ≤ ((q.floor % 2 : Int) : Rat) ∧ ((q.floor % 2 : Int) : Rat) ≤ 1 := by
    constructor
    · exact_mod_cast (show 0 ≤ q.floor % 2 by omega)
    · exact_mod_cast (show q.floor % 2 ≤ 1 by omega)
  unfold nearestInteger
  simp only
  split_ifs <;> push_cast <;> rw [abs_le] <;> constructor <;> linarith

theorem nearestInteger_intCast (n : Int) : nearestInteger n = n := by
  simp [nearestInteger, Rat.floor_intCast]

theorem even_nearestInteger (tie : |q - nearestInteger q| = 1 / 2) : Even (nearestInteger q) := by
  have below := Rat.floor_le q
  have above := Rat.lt_floor_add_one q
  push_cast at above
  unfold nearestInteger at tie ⊢
  simp only at tie ⊢
  split_ifs at tie ⊢ with low high
  · rw [abs_of_nonneg (by linarith)] at tie
    linarith
  · push_cast at tie
    rw [abs_of_neg (by linarith)] at tie
    linarith
  · rw [Int.even_iff]
    omega

/-- Up to an integer are those rounded that lie less than a half above it; at a half, it is the even
one that they are rounded to. -/
theorem nearestInteger_le_iff : nearestInteger q ≤ n ↔ q < n + 1 / 2 ∨ q = n + 1 / 2 ∧ Even n := by
  have close := abs_le.mp (abs_nearestInteger_sub_le q)
  constructor
  · intro under
    have under' : (nearestInteger q : Rat) ≤ n := by exact_mod_cast under
    rcases (show q ≤ n + 1 / 2 by linarith).lt_or_eq with less | level
    · exact Or.inl less
    · have same : nearestInteger q = n := by
        have least : (n : Rat) ≤ nearestInteger q := by linarith
        exact le_antisymm under (by exact_mod_cast least)
      refine Or.inr ⟨level, ?_⟩
      rw [← same]
      apply even_nearestInteger
      rw [same, level, add_sub_cancel_left]
      norm_num
  · rintro (less | ⟨level, even⟩)
    · have under : (nearestInteger q : Rat) < n + 1 := by linarith
      exact Int.lt_add_one_iff.mp (by exact_mod_cast under)
    · by_contra beyond
      have next : nearestInteger q = n + 1 := by
        have most : (nearestInteger q : Rat) ≤ n + 1 := by linarith
        have most' : nearestInteger q ≤ n + 1 := by exact_mod_cast most
        omega
      have odd : Even (nearestInteger q) := by
        apply even_nearestInteger
        rw [next, level]
        push_cast
        rw [abs_of_neg (by linarith)]
        ring
      rw [next, Int.even_add_one] at odd
      exact odd even

theorem nearestInteger_nonneg_iff : 0 ≤ nearestInteger q ↔ -(1 / 2) ≤ q := by
  have below : nearestInteger q ≤ -1 ↔ q < -(1 / 2) := by
    rw [nearestInteger_le_iff]
    push_cast
    norm_num
  rw [← not_lt, ← not_lt, ← below]
  omega

theorem abs_sub_nearestInteger_le (q : Rat) (m : Int) : |q - nearestInteger q| ≤ |q - m| := by
  by_cases same : nearestInteger q = m
  · rw [same]
  · have apart : (1 : Rat) ≤ |(nearestInteger q : Rat) - m| := by
      exact_mod_cast Int.one_le_abs (sub_ne_zero.mpr same)
    have half := abs_nearestInteger_sub_le q
    have between := abs_sub_le (nearestInteger q : Rat) q m
    rw [abs_sub_comm q]
    linarith

theorem nearestInteger_mem {last : Int} (low : -(1 / 2) < q) (high : q < last + 1 / 2) :
    0 ≤ nearestInteger q ∧ nearestInteger q ≤ last :=
  ⟨nearestInteger_nonneg_iff.mpr low.le, nearestInteger_le_iff.mpr (Or.inl high)⟩

end Elevation
