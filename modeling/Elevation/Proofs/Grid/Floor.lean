import Elevation.Proofs.Grid.Corner
import Elevation.Proofs.Grid.Globe

/-!
The snapping floor as a floor. It keeps the order of coordinates and leaves integers as they are, a
coordinate is less than the snap below its floor and less than one above it, and only the coordinates
that the snap is meant for have another floor than the mathematical one.
-/

namespace Elevation

variable {v w : Rat}

/-- A coordinate that the snap is meant for: it is negative, and less than the snap below the next
integer without being one. -/
def IsSnapped (v : Rat) : Prop := v < 0 ∧ (∀ k : Int, v ≠ k) ∧ (⌈v⌉ : Rat) - v < snap

theorem snapped_intCast (n : Int) : snapped n = n := by
  rw [snapped, Rat.floor_intCast, if_neg]
  push_cast
  norm_num

theorem sub_snap_lt (v : Rat) : (snapped v : Rat) - snap < v := by
  have near := snapped_lt_add v
  rw [snap_rat]
  linarith

theorem snapped_le_of_nonneg (positive : 0 ≤ v) : (snapped v : Rat) ≤ v := by
  rw [snapped, if_neg fun negative => not_lt.mpr positive negative.1]
  exact Rat.floor_le v

theorem ceil_eq_floor_add_one (broken : ∀ k : Int, v ≠ k) : ⌈v⌉ = v.floor + 1 := by
  have below : (v.floor : Rat) < v := lt_of_le_of_ne (Rat.floor_le v) (broken v.floor).symm
  rw [Int.ceil_eq_iff]
  push_cast
  exact ⟨by linarith, by exact_mod_cast (Rat.lt_floor_add_one v).le⟩

theorem isSnapped_iff : IsSnapped v ↔ v < 0 ∧ ((v.floor + 1 : Int) : Rat) - v < 1 / 100000 := by
  constructor
  · rintro ⟨negative, broken, close⟩
    rw [ceil_eq_floor_add_one broken, snap_rat] at close
    exact ⟨negative, close⟩
  · rintro ⟨negative, close⟩
    have broken : ∀ k : Int, v ≠ k := by
      rintro k rfl
      rw [Rat.floor_intCast] at close
      push_cast at close
      norm_num at close
    exact ⟨negative, broken, by rwa [ceil_eq_floor_add_one broken, snap_rat]⟩

theorem snapped_ne_floor_iff : snapped v ≠ ⌊v⌋ ↔ IsSnapped v := by
  change snapped v ≠ v.floor ↔ _
  rw [isSnapped_iff]
  by_cases close : v < 0 ∧ ((v.floor + 1 : Int) : Rat) - v < 1 / 100000
  · rw [snapped, if_pos close]
    exact iff_of_true (by omega) close
  · rw [snapped, if_neg close]
    exact iff_of_false (not_not.mpr rfl) close

theorem snapped_mono (order : v ≤ w) : snapped v ≤ snapped w := by
  have floors : v.floor ≤ w.floor := Rat.floor_monotone order
  have least := floor_le_snapped w
  by_cases close : v < 0 ∧ ((v.floor + 1 : Int) : Rat) - v < 1 / 100000
  · have up : snapped v = v.floor + 1 := if_pos close
    rcases floors.lt_or_eq with less | same
    · omega
    · -- Between them there is no integer, so the greater one is not above the snap either.
      have above := Rat.lt_floor_add_one w
      have negative : v.floor < 0 := Rat.floor_lt_iff.mpr (by exact_mod_cast close.1)
      have top : ((w.floor + 1 : Int) : Rat) ≤ 0 := by exact_mod_cast (show w.floor + 1 ≤ 0 by omega)
      have up' : snapped w = w.floor + 1 := by
        refine if_pos ⟨above.trans_le top, ?_⟩
        have near := close.2
        rw [same] at near
        linarith
      omega
  · have down : snapped v = v.floor := if_neg close
    omega

/-- Over exact numbers, every coordinate has a snapped floor: the coordinate lies less than the snap
below it and less than one above it, and not below it unless it is negative; it is the floor except
where the snap is meant to change it. The snapped floor keeps the order and leaves integers, hence
its own results, as they are, and the cell of a place on the globe has its corner there. -/
theorem snappedFloor_brackets :
    (∀ v : Rat, ∃ n : Int, snappedFloor v = .ok n ∧ ((n : Rat) - snap < v ∧ v < n + 1) ∧
      (0 ≤ v → (n : Rat) ≤ v) ∧ (n ≠ ⌊v⌋ ↔ IsSnapped v) ∧ snappedFloor (n : Rat) = .ok n) ∧
    (∀ (v w : Rat) (m n : Int), v ≤ w → snappedFloor v = .ok m → snappedFloor w = .ok n → m ≤ n) ∧
    (∀ n : Int, snappedFloor (n : Rat) = .ok n) ∧
    ∀ place : Place Rat, place.validate = .ok () → ∃ cell, place.cell = .ok cell ∧ cell.OnGlobe := by
  have whole (n : Int) : snappedFloor (n : Rat) = .ok n := by rw [snappedFloor_rat, snapped_intCast]
  refine ⟨fun v => ?_, fun v w m n order first second => ?_, whole, fun place valid => ?_⟩
  · exact ⟨snapped v, snappedFloor_rat v, ⟨sub_snap_lt v, lt_snapped_add_one v⟩,
      snapped_le_of_nonneg, snapped_ne_floor_iff, whole _⟩
  · rw [snappedFloor_rat, Except.ok.injEq] at first second
    rw [← first, ← second]
    exact snapped_mono order
  · exact Scalar.Charted.cell_of_validate place valid

/-- A coordinate half the snap below -4 counts as -4. -/
theorem snappedFloor_brackets_brink :
    snappedFloor (-800001 / 200000 : Rat) = .ok (-4) ∧ ⌊(-800001 / 200000 : Rat)⌋ = -5 := by
  obtain ⟨n, floored, ⟨low, high⟩, -, other, -⟩ := snappedFloor_brackets.1 (-800001 / 200000)
  have floor : ⌊(-800001 / 200000 : Rat)⌋ = -5 := by norm_num
  have changed : n ≠ -5 := by
    rw [← floor, other, isSnapped_iff]
    decide +kernel
  have least : -6 < n := by exact_mod_cast (show (-6 : Rat) < n by linarith)
  have most : n < -3 := by
    rw [snap_rat] at low
    exact_mod_cast (show (n : Rat) < -3 by linarith)
  obtain rfl : n = -4 := by omega
  exact ⟨floored, floor⟩

end Elevation
