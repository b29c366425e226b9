import Elevation.Proofs.Grid.Bounds

/-!
Places on the globe. Each of them has a cell, and the corner of that cell lies on the globe too. This
holds for doubles as well as for exact numbers.
-/

namespace Elevation

/-- Numbers in which every place on the globe has a cell that begins on the globe. -/
class Scalar.Charted (α : Type) [Scalar α] : Prop where
  cell_of_validate : ∀ place : Place α, place.validate = .ok () →
    ∃ cell, place.cell = .ok cell ∧ (-90 ≤ cell.lat ∧ cell.lat ≤ 90) ∧
      -180 ≤ cell.lon ∧ cell.lon ≤ 180

/-! ### Doubles -/

theorem Decimal.truncate_of_edge {bound places : Nat} (edge : Edge bound places) {x : Float}
    (inside : Place.inRange (-bound) bound x = true) : ∃ near, Scalar.truncate x = .ok near := by
  obtain ⟨low, high⟩ := Bool.and_eq_true_iff.mp inside
  obtain ⟨negative, significand, exponent, parts, -⟩ :=
    atMost_of_le edge (of_decide_eq_true low) (of_decide_eq_true high)
  change ∃ near, integerOf _ x = .ok near
  simp only [integerOf, parts]
  exact ⟨_, rfl⟩

theorem Decimal.coordinateFloor_of_edge {bound places : Nat} (edge : Edge bound places) {x : Float}
    (inside : Place.inRange (-bound) bound x = true) : ∃ n, coordinateFloor x = .ok n := by
  obtain ⟨near, cut⟩ := truncate_of_edge edge inside
  unfold coordinateFloor snappedFloor
  rw [cut]
  exact ⟨_, rfl⟩

instance : Scalar.Charted Float where
  cell_of_validate := by
    intro place valid
    obtain ⟨lat, lon⟩ := inRange_of_validate valid
    obtain ⟨row, floored⟩ := Decimal.coordinateFloor_of_edge Decimal.edge_90 lat
    obtain ⟨column, floored'⟩ := Decimal.coordinateFloor_of_edge Decimal.edge_180 lon
    have located : place.cell = .ok ⟨row, column⟩ := by
      unfold Place.cell
      rw [floored, floored']
    exact ⟨_, located, cell_mem_globe valid located⟩

/-! ### Exact numbers -/

theorem snapped_mem (bound : Nat) {x : Rat} (low : -(bound : Rat) ≤ x) (high : x ≤ bound) :
    -(bound : Int) ≤ snapped x ∧ snapped x ≤ bound := by
  constructor
  · have floor : -(bound : Int) ≤ x.floor := Rat.le_floor_iff.mpr (by push_cast; exact low)
    exact floor.trans (floor_le_snapped x)
  · have above : (snapped x : Rat) < ((bound + 1 : Int) : Rat) := by
      have near := snapped_lt_add x
      push_cast
      linarith
    have strict : snapped x < bound + 1 := by exact_mod_cast above
    omega

instance : Scalar.Charted Rat where
  cell_of_validate := by
    intro place valid
    obtain ⟨lat, lon⟩ := (validate_rat place).mp valid
    exact ⟨_, cell_rat place, snapped_mem 90 lat.1 lat.2,
      snapped_mem 180 lon.1 lon.2⟩

theorem Scalar.Charted.exists_cell {α : Type} [Scalar α] [Scalar.Charted α] {place : Place α}
    (valid : place.validate = .ok ()) :
    ∃ cell, place.cell = .ok cell ∧ -181 ≤ cell.lon ∧ cell.lon ≤ 180 := by
  obtain ⟨cell, located, -, lon⟩ := cell_of_validate place valid
  exact ⟨cell, located, by omega, lon.2⟩

end Elevation
