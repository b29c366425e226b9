import Elevation.Proofs.Decimal.Rounding
import Elevation.Proofs.Grid.Snap
import Elevation.Tile.Basic

/-!
The sample nearest to a place, over exact rationals. The snap lets a place lie a little outside the
cell that it belongs to, by less than half a sample as long as a tile is not wider than
`widestExact`; so the nearest row and column are those of a sample.
-/

namespace Elevation

/-- The greatest number of samples a side for which the snap is less than half a sample. -/
def widestExact : Nat := 50000

/-- The number of steps between the outermost samples of a row, for so many samples a side. -/
def stepsOf (width : Nat) : Rat := width - 1

/-- A row and a column of a grid over a cell, whose node lies within half a sample of a place. -/
structure IsNearest (cell : Cell) (width : Nat) (place : Place Rat) (row column : Nat) : Prop where
  row_lt : row < width
  column_lt : column < width
  lat : |place.lat - (cell.lat + 1 - row / stepsOf width)| ≤ 1 / (2 * stepsOf width)
  lon : |place.lon - (cell.lon + column / stepsOf width)| ≤ 1 / (2 * stepsOf width)

/-- A distance from the edge of a cell, the snap included, leads to a node of its grid. -/
theorem node_spec {distance : Rat} {width : Nat} (wide : 2 ≤ width ∧ width ≤ widestExact)
    (low : -(1 / 100000) < distance) (high : distance < 1 + 1 / 100000) :
    ∃ node : Nat, node < width ∧ nearestInteger (distance * stepsOf width) = node ∧
      |distance - node / stepsOf width| ≤ 1 / (2 * stepsOf width) := by
  have least : (2 : Rat) ≤ width := by exact_mod_cast wide.1
  have most : (width : Rat) ≤ 50000 := by exact_mod_cast wide.2
  have last : stepsOf width = ((width - 1 : Int) : Rat) := by
    unfold stepsOf
    push_cast
    rfl
  have positive : 0 < stepsOf width := by
    unfold stepsOf
    linarith
  have few : stepsOf width ≤ 49999 := by
    unfold stepsOf
    linarith
  -- The snap is less than half a step, so rounding does not leave the grid.
  have inside := @nearestInteger_mem (distance * stepsOf width) (width - 1) (by nlinarith)
    (by rw [← last]; nlinarith)
  have close := abs_nearestInteger_sub_le (distance * stepsOf width)
  generalize nearestInteger (distance * stepsOf width) = node at inside close
  lift node to Nat using inside.1
  refine ⟨node, by omega, rfl, ?_⟩
  have split : distance - node / stepsOf width =
      -(node - distance * stepsOf width) / stepsOf width := by
    field_simp
    ring
  rw [split, abs_div, abs_neg, abs_of_pos positive, div_le_div_iff₀ positive (by linarith)]
  push_cast at close
  nlinarith

namespace Tile

theorem rowOf_rat (tile : Tile) (lat : Rat) :
    tile.rowOf lat = .ok (nearestInteger ((tile.cell.lat + 1 - lat) * stepsOf tile.width)) := by
  simp only [rowOf, degrees, Scalar.ofInt?, Scalar.holds, nodeAt, Scalar.nearest, Scalar.ofInt,
    Except.bind, Except.mapError, stepsOf, ↓reduceIte]
  push_cast
  rfl

theorem columnOf_rat (tile : Tile) (lon : Rat) :
    tile.columnOf lon = .ok (nearestInteger ((lon - tile.cell.lon) * stepsOf tile.width)) := by
  simp only [columnOf, degrees, Scalar.ofInt?, Scalar.holds, nodeAt, Scalar.nearest, Scalar.ofInt,
    Except.bind, Except.mapError, stepsOf, ↓reduceIte]
  push_cast
  rfl

theorem indexAt_of_cell {tile : Tile} {place : Place Rat}
    (wide : 2 ≤ tile.width ∧ tile.width ≤ widestExact) (located : place.cell = .ok tile.cell) :
    ∃ row column, tile.indexAt place = .ok ((row : Nat), (column : Nat)) ∧
      IsNearest tile.cell tile.width place row column := by
  rw [cell_rat, Except.ok.injEq] at located
  have south : (tile.cell.lat : Rat) = snapped place.lat := by rw [← located]
  have west : (tile.cell.lon : Rat) = snapped place.lon := by rw [← located]
  have inLat := lt_snapped_add_one place.lat
  have inLon := lt_snapped_add_one place.lon
  have nearLat := snapped_lt_add place.lat
  have nearLon := snapped_lt_add place.lon
  rw [← south] at inLat nearLat
  rw [← west] at inLon nearLon
  obtain ⟨row, rowIn, rowEq, rowNear⟩ :=
    @node_spec (tile.cell.lat + 1 - place.lat) tile.width wide (by linarith) (by linarith)
  obtain ⟨column, columnIn, columnEq, columnNear⟩ :=
    @node_spec (place.lon - tile.cell.lon) tile.width wide (by linarith) (by linarith)
  refine ⟨row, column, ?_, rowIn, columnIn, ?_, ?_⟩
  · have inside : (tile.isIndex row && tile.isIndex column) = true := by
      simp [isIndex, rowIn, columnIn]
    unfold indexAt
    rw [rowOf_rat, columnOf_rat, rowEq, columnEq]
    simp only [inside, ↓reduceIte]
  · rw [abs_sub_comm] at rowNear
    convert rowNear using 2
    ring
  · convert columnNear using 2
    ring

end Tile

end Elevation
