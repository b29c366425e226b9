import Elevation.Proofs.Tile.Nearest

/-!
For which places a tile has a sample, and which sample that is. A place is served if it lies at most
half a step outside the outermost samples; at half a step itself, on the far side, if the number of
steps is even. It is served by the sample nearest to it, ties going to the even row and column.
-/

namespace Elevation

/-! ### The samples of a tile -/

/-- A distance from an edge, in steps between samples, is near enough to the row from the first
sample to the last one. -/
def IsServed (last : Int) (x : Rat) : Prop := -(1 / 2) ≤ x ∧ (x < last + 1 / 2 ∨ x = last + 1 / 2 ∧ Even last)

instance (last : Int) (x : Rat) : Decidable (IsServed last x) := inferInstanceAs (Decidable (_ ∧ _))

/-- A sample in the row up to the last one to which a distance in steps is nearest; of two that are
equally near, the even one. -/
structure Selects (last : Int) (x : Rat) (n : Int) : Prop where
  nonneg : 0 ≤ n
  le_last : n ≤ last
  close : |x - n| ≤ 1 / 2
  nearest : ∀ m : Int, |x - n| ≤ |x - m|
  even : |x - n| = 1 / 2 → Even n

theorem isServed_iff {last : Int} {x : Rat} :
    IsServed last x ↔ 0 ≤ nearestInteger x ∧ nearestInteger x ≤ last := by
  rw [nearestInteger_nonneg_iff, nearestInteger_le_iff]
  rfl

theorem IsServed.selects {last : Int} {x : Rat} (served : IsServed last x) :
    Selects last x (nearestInteger x) where
  nonneg := (isServed_iff.mp served).1
  le_last := (isServed_iff.mp served).2
  close := abs_sub_comm (nearestInteger x : Rat) x ▸ abs_nearestInteger_sub_le x
  nearest := abs_sub_nearestInteger_le x
  even := even_nearestInteger

def Cell.node (cell : Cell) (width row column : Nat) : Place Rat :=
  ⟨cell.lat + 1 - row / stepsOf width, cell.lon + column / stepsOf width⟩

namespace Tile

variable {tile : Tile} {place : Place Rat} {row column : Nat}

/-- How far a tile has a latitude south of its northern edge, in steps between samples. -/
def southing (tile : Tile) (lat : Rat) : Rat := (tile.cell.lat + 1 - lat) * stepsOf tile.width

def easting (tile : Tile) (lon : Rat) : Rat := (lon - tile.cell.lon) * stepsOf tile.width

def last (tile : Tile) : Int := tile.width - 1

theorem isIndex_iff {n : Int} : tile.isIndex n = true ↔ 0 ≤ n ∧ n ≤ tile.last := by
  simp [isIndex, last]

theorem indexAt_eq (tile : Tile) (place : Place Rat) : tile.indexAt place =
    if IsServed tile.last (tile.southing place.lat) ∧ IsServed tile.last (tile.easting place.lon) then
      .ok (nearestInteger (tile.southing place.lat), nearestInteger (tile.easting place.lon))
    else .error (.outsideTile (Scalar.text place.lat) (Scalar.text place.lon) tile.name) := by
  unfold indexAt
  rw [rowOf_rat, columnOf_rat]
  simp only [Bool.and_eq_true, isIndex_iff, isServed_iff, southing, easting]

theorem indexAt_eq_ok_iff {n m : Int} : tile.indexAt place = .ok (n, m) ↔
    (IsServed tile.last (tile.southing place.lat) ∧ IsServed tile.last (tile.easting place.lon)) ∧
      nearestInteger (tile.southing place.lat) = n ∧ nearestInteger (tile.easting place.lon) = m := by
  rw [indexAt_eq]
  split_ifs with served <;> simp [served]

theorem stepsOf_pos (wide : 2 ≤ tile.width) : 0 < stepsOf tile.width := by
  have least : (2 : Rat) ≤ tile.width := by exact_mod_cast wide
  unfold stepsOf
  linarith

theorem southing_node (wide : 2 ≤ tile.width) (row column : Nat) :
    tile.southing (tile.cell.node tile.width row column).lat = row := by
  have steps := (stepsOf_pos wide).ne'
  simp only [southing, Cell.node]
  field_simp
  ring

theorem easting_node (wide : 2 ≤ tile.width) (row column : Nat) :
    tile.easting (tile.cell.node tile.width row column).lon = column := by
  have steps := (stepsOf_pos wide).ne'
  simp only [easting, Cell.node]
  field_simp
  ring

theorem isServed_of_lt {n : Nat} (inside : n < tile.width) : IsServed tile.last (n : Rat) := by
  have rounded : nearestInteger (n : Rat) = n := by exact_mod_cast nearestInteger_intCast n
  rw [isServed_iff, rounded, last]
  omega

theorem indexAt_node (wide : 2 ≤ tile.width) (inRow : row < tile.width) (inColumn : column < tile.width) :
    tile.indexAt (tile.cell.node tile.width row column) = .ok ((row : Int), (column : Int)) := by
  rw [indexAt_eq_ok_iff, southing_node wide, easting_node wide]
  refine ⟨⟨isServed_of_lt inRow, isServed_of_lt inColumn⟩, ?_, ?_⟩
  · exact_mod_cast nearestInteger_intCast row
  · exact_mod_cast nearestInteger_intCast column

/-- A tile has a sample for exactly the places that are near enough to its grid, and it is the nearest
one; any other place is refused as one outside the tile. Every node of the grid leads to its own
sample. -/
theorem indexAt_selects (tile : Tile) (wide : 2 ≤ tile.width) :
    (∀ place : Place Rat, (∃ n m, tile.indexAt place = .ok (n, m)) ↔
      IsServed tile.last (tile.southing place.lat) ∧ IsServed tile.last (tile.easting place.lon)) ∧
    (∀ (place : Place Rat) (n m : Int), tile.indexAt place = .ok (n, m) →
      Selects tile.last (tile.southing place.lat) n ∧ Selects tile.last (tile.easting place.lon) m) ∧
    (∀ (place : Place Rat) (failure : Failure), tile.indexAt place = .error failure →
      failure = .outsideTile (Scalar.text place.lat) (Scalar.text place.lon) tile.name) ∧
    ∀ row column : Nat, row < tile.width → column < tile.width →
      tile.indexAt (tile.cell.node tile.width row column) = .ok ((row : Int), (column : Int)) := by
  refine ⟨fun place => ?_, fun place n m found => ?_, fun place failure failed => ?_, ?_⟩
  · simp only [indexAt_eq_ok_iff]
    exact ⟨fun ⟨_, _, served, _⟩ => served, fun served => ⟨_, _, served, rfl, rfl⟩⟩
  · obtain ⟨⟨south, east⟩, rfl, rfl⟩ := indexAt_eq_ok_iff.mp found
    exact ⟨south.selects, east.selects⟩
  · rw [indexAt_eq] at failed
    split_ifs at failed
    exact (Except.error.inj failed).symm
  · intro row column inRow inColumn
    exact indexAt_node wide inRow inColumn

/-- A tile of nine samples, one of them void. -/
def dale : Tile := ⟨⟨52, 4⟩, 3, #[7, 8, 9, 10, -32768, 12, 13, 14, 15], rfl⟩

/-- A place that is half a step south of the tile and half-way between two columns. -/
theorem indexAt_selects_dale :
    2 ≤ dale.width ∧ dale.indexAt (⟨207 / 4, 17 / 4⟩ : Place Rat) = .ok (2, 0) := by
  have wide : 2 ≤ dale.width := by decide
  obtain ⟨accepts, selects, -, -⟩ := indexAt_selects dale wide
  have south : dale.southing (207 / 4) = 5 / 2 := by decide +kernel
  have east : dale.easting (17 / 4) = 1 / 2 := by decide +kernel
  obtain ⟨n, m, found⟩ := (accepts ⟨207 / 4, 17 / 4⟩).mpr (by
    rw [south, east]
    decide +kernel)
  obtain ⟨row, column⟩ := selects _ n m found
  rw [south] at row
  rw [east] at column
  have least : 2 ≤ n := by
    have near := (abs_le.mp row.close).2
    exact_mod_cast (show (2 : Rat) ≤ n by linarith)
  obtain rfl : n = 2 := le_antisymm row.le_last least
  have few : m ≤ 1 := by
    have near := (abs_le.mp column.close).1
    exact_mod_cast (show (m : Rat) ≤ 1 by linarith)
  obtain rfl | rfl : m = 0 ∨ m = 1 := by
    have nonneg := column.nonneg
    omega
  · exact ⟨wide, found⟩
  · exact absurd (column.even (by norm_num)) (by decide)

end Tile

end Elevation
