import Elevation.Grid
import Mathlib

/-!
The corners of cells. A cell is the cell of its own corner, and it is on the globe if its corner is a
place on the globe.
-/

namespace Elevation

theorem coordinateFloor_whole (n : Int) : coordinateFloor n = .ok n := by
  have level : isBelow n n = false := by
    change (decide (0 < n - n) && _) = false
    rw [Int.sub_self]
    rfl
  change Except.ok (if isBelow n n then n - 1 else n) = _
  rw [level]
  rfl

namespace Cell

def corner (cell : Cell) : Place Int := ⟨cell.lat, cell.lon⟩

def OnGlobe (cell : Cell) : Prop :=
  (-90 ≤ cell.lat ∧ cell.lat ≤ 90) ∧ -180 ≤ cell.lon ∧ cell.lon ≤ 180

instance (cell : Cell) : Decidable cell.OnGlobe := inferInstanceAs (Decidable (_ ∧ _))

/-- Cells are in order by their rows, and by their columns within a row. -/
def Before (cell other : Cell) : Prop :=
  Prod.Lex (· < ·) (· < ·) (cell.lat, cell.lon) (other.lat, other.lon)

theorem cell_corner (cell : Cell) : cell.corner.cell = .ok cell := by
  unfold Place.cell corner
  rw [coordinateFloor_whole, coordinateFloor_whole]

theorem name_corner (cell : Cell) : cell.corner.name = .ok cell.name := by
  rw [Place.name, cell_corner]
  rfl

theorem validate_corner (cell : Cell) : cell.corner.validate = .ok () ↔ cell.OnGlobe := by
  have range (low high n : Int) : Place.inRange low high n = true ↔ low ≤ n ∧ n ≤ high := by
    change (decide (low ≤ n) && decide (n ≤ high)) = true ↔ _
    simp
  rw [OnGlobe, ← range, ← range, Place.validate, corner]
  cases Place.inRange (-90) 90 cell.lat <;> cases Place.inRange (-180) 180 cell.lon <;> simp

end Cell

end Elevation
