import Elevation.Grid
import Mathlib

/-!
The snapping floor over exact rationals. It is the floor, except that a negative coordinate less than
the snap below an integer goes up to that integer.
-/

namespace Elevation

/-- The floor of a rational, with the snap below integers that are not positive. -/
def snapped (x : Rat) : Int :=
  if x < 0 ∧ ((x.floor + 1 : Int) : Rat) - x < 1 / 100000 then x.floor + 1 else x.floor

theorem snap_rat : (snap : Rat) = 1 / 100000 := by
  change ((1 : Int) : Rat) / ((100000 : Int) : Rat) = 1 / 100000
  norm_num

theorem isBelow_rat (near : Int) (x : Rat) :
    isBelow near x = true ↔ (0 : Rat) < near - x ∧ 1 / 100000 ≤ (near : Rat) - x := by
  change (decide (((0 : Int) : Rat) < near - x) && decide ((snap : Rat) ≤ near - x)) = true ↔ _
  rw [snap_rat]
  simp

theorem truncateRational_of_neg {x : Rat} (negative : x < 0) (broken : (x.floor : Rat) ≠ x) :
    truncateRational x = x.floor + 1 := by
  have below : (x.floor : Rat) < x := lt_of_le_of_ne (Rat.floor_le x) broken
  have above := Rat.lt_floor_add_one x
  have opposite : (-x).floor = -x.floor - 1 := by
    apply le_antisymm
    · have cut : (-x).floor < -x.floor := Rat.floor_lt_iff.mpr (by push_cast; linarith)
      omega
    · exact Rat.le_floor_iff.mpr (by push_cast at above ⊢; linarith)
  rw [truncateRational, if_neg (not_le.mpr negative), opposite]
  omega

theorem snappedFloor_rat (x : Rat) : snappedFloor x = .ok (snapped x) := by
  change Except.ok (if isBelow (truncateRational x) x then _ else _) = _
  congr 1
  have below := Rat.floor_le x
  have above := Rat.lt_floor_add_one x
  by_cases whole : (x.floor : Rat) = x
  · have near : truncateRational x = x.floor := by
      unfold truncateRational
      rw [← whole, ← Rat.intCast_neg, Rat.floor_intCast, Rat.floor_intCast, neg_neg, ite_self]
    have level : ¬ isBelow x.floor x = true := by
      rw [isBelow_rat, whole]
      simp
    rw [near, if_neg level, snapped, if_neg]
    rw [Rat.intCast_add, whole]
    norm_num
  by_cases negative : x < 0
  · rw [truncateRational_of_neg negative whole, snapped]
    by_cases close : ((x.floor + 1 : Int) : Rat) - x < 1 / 100000
    · have level : ¬ isBelow (x.floor + 1) x = true := by
        rw [isBelow_rat]
        exact fun lower => absurd close (not_lt.mpr lower.2)
      rw [if_neg level, if_pos ⟨negative, close⟩]
    · have lower : isBelow (x.floor + 1) x = true := by
        rw [isBelow_rat]
        exact ⟨sub_pos.mpr above, not_lt.mp close⟩
      rw [if_pos lower, if_neg (fun snap => close snap.2), add_sub_cancel_right]
  · have near : truncateRational x = x.floor := if_pos (not_lt.mp negative)
    have level : ¬ isBelow x.floor x = true := by
      rw [isBelow_rat]
      exact fun lower => absurd lower.1 (not_lt.mpr (sub_nonpos.mpr below))
    rw [near, if_neg level, snapped, if_neg fun snap => negative snap.1]

theorem cell_rat (place : Place Rat) : place.cell = .ok ⟨snapped place.lat, snapped place.lon⟩ := by
  simp only [Place.cell, coordinateFloor, snappedFloor_rat]
  rfl

theorem validate_rat (place : Place Rat) : place.validate = .ok () ↔
    (-90 ≤ place.lat ∧ place.lat ≤ 90) ∧ (-180 ≤ place.lon ∧ place.lon ≤ 180) := by
  have range (bound : Int) (x : Rat) :
      Place.inRange (-bound) bound x = true ↔ -(bound : Rat) ≤ x ∧ x ≤ bound := by
    change (decide (((-bound : Int) : Rat) ≤ x) && decide (x ≤ (bound : Rat))) = true ↔ _
    simp
  have lat := range 90 place.lat
  have lon := range 180 place.lon
  push_cast at lat lon
  rw [← lat, ← lon, Place.validate]
  cases Place.inRange (-90) 90 place.lat <;> cases Place.inRange (-180) 180 place.lon <;> simp

/-! ### Where the snap leads -/

theorem floor_le_snapped (x : Rat) : x.floor ≤ snapped x := by
  unfold snapped
  split_ifs <;> omega

theorem lt_snapped_add_one (x : Rat) : x < snapped x + 1 := by
  have above := Rat.lt_floor_add_one x
  have lower : (x.floor : Rat) ≤ snapped x := by exact_mod_cast floor_le_snapped x
  push_cast at above
  linarith

theorem snapped_cases (x : Rat) :
    (snapped x : Rat) ≤ x ∨ x < snapped x ∧ snapped x ≤ 0 ∧ (snapped x : Rat) - x < 1 / 100000 := by
  by_cases close : x < 0 ∧ ((x.floor + 1 : Int) : Rat) - x < 1 / 100000
  · right
    have up : snapped x = x.floor + 1 := if_pos close
    have negative : x.floor < 0 := Rat.floor_lt_iff.mpr (by exact_mod_cast close.1)
    rw [up]
    exact ⟨Rat.lt_floor_add_one x, by omega, close.2⟩
  · left
    have down : snapped x = x.floor := if_neg close
    rw [down]
    exact Rat.floor_le x

theorem snapped_lt_add (x : Rat) : (snapped x : Rat) < x + 1 / 100000 := by
  rcases snapped_cases x with below | ⟨-, -, close⟩ <;> linarith

end Elevation
