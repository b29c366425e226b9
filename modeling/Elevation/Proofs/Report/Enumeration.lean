import Elevation.Report.Coverage
import Elevation.Proofs.Grid.Corner
import Elevation.Proofs.Outcome
import Elevation.Proofs.Provider.Failures

/-!
The cells of a box in the order in which a survey goes through them: row by row from south to north,
each row from west to east. As long as all of them are on the globe, the survey tells of each of them
once, in this order; otherwise it is rejected.
-/

namespace Elevation.Report

variable {index : Elevation.Coverage.Index} {west south east north : Rat}

/-! ### The cells of a box -/

theorem range_of_lt {low high : Int} (some : low < high) :
    Int.range low high = low :: Int.range (low + 1) high := by
  have size : (high - low).toNat = (high - (low + 1)).toNat + 1 := by omega
  unfold Int.range
  rw [size, List.range_succ_eq_map, List.map_cons, List.map_map]
  simp only [Nat.cast_zero, add_zero, List.cons.injEq, true_and]
  apply List.map_congr_left
  intro n _
  simp only [Function.comp_apply]
  push_cast
  ring

theorem range_of_le {low high : Int} (none : high ≤ low) : Int.range low high = [] := by
  unfold Int.range
  rw [Int.toNat_of_nonpos (by omega)]
  rfl

theorem pairwise_range (low high : Int) : (Int.range low high).Pairwise (· < ·) := by
  unfold Int.range
  rw [List.pairwise_map]
  exact List.pairwise_lt_range.imp fun less => by omega

def rowCells (east : Rat) (lat lon : Int) : List Cell := (Int.range lon ⌈east⌉).map (Cell.mk lat)

def boxCells (west east north : Rat) (lat : Int) : List Cell :=
  (Int.range lat ⌈north⌉).flatMap fun row => rowCells east row west.floor

/-- The cells that a box reaches from row `lat` on. -/
structure Reaches (west east north : Rat) (lat : Int) (cell : Cell) : Prop where
  low : lat ≤ cell.lat
  high : (cell.lat : Rat) < north
  left : west.floor ≤ cell.lon
  right : (cell.lon : Rat) < east

theorem mem_boxCells {lat : Int} {cell : Cell} :
    cell ∈ boxCells west east north lat ↔ Reaches west east north lat cell := by
  simp only [boxCells, rowCells, List.mem_flatMap, List.mem_map, Int.mem_range_iff, Int.lt_ceil]
  constructor
  · rintro ⟨row, ⟨low, high⟩, column, ⟨left, right⟩, rfl⟩
    exact ⟨low, high, left, right⟩
  · rintro ⟨low, high, left, right⟩
    exact ⟨cell.lat, ⟨low, high⟩, cell.lon, ⟨left, right⟩, rfl⟩

theorem pairwise_boxCells (west east north : Rat) (lat : Int) :
    (boxCells west east north lat).Pairwise Cell.Before := by
  rw [boxCells, List.pairwise_flatMap]
  constructor
  · intro row _
    rw [rowCells, List.pairwise_map]
    exact (pairwise_range _ _).imp fun less => Prod.Lex.right _ less
  · apply (pairwise_range _ _).imp
    intro row upper less cell inRow other inUpper
    obtain ⟨column, -, rfl⟩ := List.mem_map.mp inRow
    obtain ⟨column', -, rfl⟩ := List.mem_map.mp inUpper
    exact Prod.Lex.left _ _ less

theorem length_boxCells (west east north : Rat) (lat : Int) :
    (boxCells west east north lat).length = (⌈north⌉ - lat).toNat * (⌈east⌉ - west.floor).toNat := by
  simp [boxCells, rowCells, List.length_flatMap, Int.range, Function.comp_def]

/-! ### Going through them -/

def findingOf (index : Elevation.Coverage.Index) (cell : Cell) : Finding :=
  ⟨cell, index.find? cell.key⟩

/-- Some cells are told of in their order if all of them are on the globe, and rejected otherwise. -/
structure Tells (index : Elevation.Coverage.Index) (cells : List Cell)
    (outcome : Except Failure (List Finding)) : Prop where
  told : (∀ cell ∈ cells, cell.OnGlobe) → outcome = .ok (cells.map (findingOf index))
  rejected : (∃ cell ∈ cells, ¬ cell.OnGlobe) →
    ∃ failure, outcome = .error failure ∧ failure.kind = "ValueError"

theorem find_of_onGlobe {cell : Cell} (inside : cell.OnGlobe) :
    find index cell = .ok (findingOf index cell) := by
  have valid := cell.validate_corner.mpr inside
  change cell.corner.validate.map _ = _
  rw [valid]
  rfl

theorem find_ok {cell : Cell} {finding : Finding} (found : find index cell = .ok finding) :
    cell.OnGlobe ∧ finding = findingOf index cell := by
  obtain ⟨_, valid, rfl⟩ := map_eq_ok.mp found
  exact ⟨cell.validate_corner.mp valid, rfl⟩

theorem find_error {cell : Cell} {failure : Failure} (failed : find index cell = .error failure) :
    ¬ cell.OnGlobe ∧ failure.kind = "ValueError" := by
  refine ⟨fun inside => ?_, Provider.kind_of_validate (map_eq_error.mp failed)⟩
  cases failed.symm.trans (find_of_onGlobe inside)

theorem Tells.nil (index : Elevation.Coverage.Index) : Tells index [] (.ok []) :=
  ⟨fun _ => rfl, fun ⟨_, present, _⟩ => by cases present⟩

/-- A part that is told of goes before what is told of the rest. -/
theorem Tells.append {front back : List Cell} {outcome : Except Failure (List Finding)}
    (inside : ∀ cell ∈ front, cell.OnGlobe) (tells : Tells index back outcome) :
    Tells index (front ++ back) (outcome.map (front.map (findingOf index) ++ ·)) := by
  constructor
  · intro all
    rw [tells.told fun cell present => all cell (List.mem_append_right front present), List.map_append]
    rfl
  · rintro ⟨cell, present, outside⟩
    rcases List.mem_append.mp present with early | late
    · exact absurd (inside cell early) outside
    · obtain ⟨failure, failed, kind⟩ := tells.rejected ⟨cell, late, outside⟩
      exact ⟨failure, map_eq_error.mpr failed, kind⟩

theorem Tells.reject {front : List Cell} {failure : Failure} (outside : ∃ cell ∈ front, ¬ cell.OnGlobe)
    (kind : failure.kind = "ValueError") (back : List Cell) :
    Tells index (front ++ back) (.error failure) := by
  obtain ⟨cell, present, off⟩ := outside
  have present' := List.mem_append_left back present
  exact ⟨fun all => absurd (all cell present') off, fun _ => ⟨failure, rfl, kind⟩⟩

theorem Tells.ok {cells : List Cell} {outcome : Except Failure (List Finding)} {findings : List Finding}
    (tells : Tells index cells outcome) (told : outcome = .ok findings) :
    findings = cells.map (findingOf index) := by
  by_cases all : ∀ cell ∈ cells, cell.OnGlobe
  · exact Except.ok.inj (told.symm.trans (tells.told all))
  · push Not at all
    obtain ⟨failure, failed, -⟩ := tells.rejected all
    cases told.symm.trans failed

theorem lt_rat (n : Int) (x : Rat) : Scalar.lt (Scalar.ofInt n) x = true ↔ (n : Rat) < x :=
  decide_eq_true_iff

theorem rowCells_of_lt {lat lon : Int} (inside : Scalar.lt (Scalar.ofInt lon) east = true) :
    rowCells east lat lon = [⟨lat, lon⟩] ++ rowCells east lat (lon + 1) := by
  rw [rowCells, range_of_lt (Int.lt_ceil.mpr ((lt_rat lon east).mp inside))]
  rfl

theorem rowCells_of_not_lt {lat lon : Int} (outside : ¬ Scalar.lt (Scalar.ofInt lon) east = true) :
    rowCells east lat lon = [] := by
  rw [rowCells, range_of_le]
  · rfl
  · rwa [lt_rat, ← Int.lt_ceil, not_lt] at outside

theorem tells_surveyRow (index : Elevation.Coverage.Index) (east : Rat) (lat lon : Int) :
    Tells index (rowCells east lat lon) (surveyRow index east lat lon) := by
  induction lon using surveyRow.induct index east lat with
  | case1 lon inside failure failed =>
    obtain ⟨off, kind⟩ := find_error failed
    rw [rowCells_of_lt inside, surveyRow, if_pos inside, failed]
    exact Tells.reject ⟨_, List.mem_singleton_self _, off⟩ kind _
  | case2 lon inside finding found off =>
    obtain ⟨⟨-, on⟩, -⟩ := find_ok found
    exact absurd on.2 (not_le.mpr off)
  | case3 lon inside finding found on ih =>
    obtain ⟨here, rfl⟩ := find_ok found
    rw [rowCells_of_lt inside, surveyRow, if_pos inside, found]
    simp only [if_neg on]
    have only : ∀ cell ∈ [Cell.mk lat lon], cell.OnGlobe := fun cell present =>
      List.mem_singleton.mp present ▸ here
    exact Tells.append only ih
  | case4 lon outside =>
    rw [rowCells_of_not_lt outside, surveyRow, if_neg outside]
    exact Tells.nil index

theorem boxCells_of_lt {lat : Int} (inside : Scalar.lt (Scalar.ofInt lat) north = true) :
    boxCells west east north lat = rowCells east lat west.floor ++ boxCells west east north (lat + 1) := by
  rw [boxCells, range_of_lt (Int.lt_ceil.mpr ((lt_rat lat north).mp inside))]
  rfl

theorem boxCells_of_not_lt {lat : Int} (outside : ¬ Scalar.lt (Scalar.ofInt lat) north = true) :
    boxCells west east north lat = [] := by
  rw [boxCells, range_of_le]
  · rfl
  · rwa [lt_rat, ← Int.lt_ceil, not_lt] at outside

/-- The induction is on the rows that are left up to the pole. Each of them has its first cell, so a
row beyond the pole is not reached. -/
theorem tells_surveyRows (index : Elevation.Coverage.Index) (columns : west < east) (north : Rat)
    (lat : Int) :
    Tells index (boxCells west east north lat) (surveyRows index west east north lat) := by
  have wide : Scalar.lt (Scalar.ofInt west.floor) east = true :=
    (lt_rat _ _).mpr (lt_of_le_of_lt (Rat.floor_le west) columns)
  have floored : Scalar.floor west = .ok west.floor := rfl
  generalize steps : (91 - lat).toNat = count
  induction count using Nat.strong_induction_on generalizing lat with
  | _ count ih =>
  rw [surveyRows, floored]
  simp only [if_pos wide]
  by_cases inside : Scalar.lt (Scalar.ofInt lat) north = true
  · have row := tells_surveyRow index east lat west.floor
    rw [boxCells_of_lt inside, if_pos inside]
    by_cases all : ∀ cell ∈ rowCells east lat west.floor, cell.OnGlobe
    · have first : (⟨lat, west.floor⟩ : Cell).OnGlobe := by
        apply all
        rw [rowCells_of_lt wide]
        exact List.mem_cons_self
      have reached : lat ≤ 90 := first.1.2
      rw [row.told all]
      simp only [if_neg (not_lt.mpr reached)]
      exact Tells.append all (ih (91 - (lat + 1)).toNat (by omega) _ rfl)
    · push Not at all
      obtain ⟨failure, failed, kind⟩ := row.rejected all
      rw [failed]
      exact Tells.reject all kind _
  · rw [boxCells_of_not_lt inside, if_neg inside]
    exact Tells.nil index

/-- The report of a box that has columns and rows sums up what its cells give. -/
theorem checkCoverage_eq (index : Elevation.Coverage.Index) (columns : west < east)
    (rows : south < north) :
    checkCoverage index [west, south, east, north] =
      (surveyRows index west east north south.floor).map .ofFindings := by
  have order (p q : Rat) : Scalar.le p q = decide (p ≤ q) := rfl
  simp only [checkCoverage, edges, order, decide_eq_true_eq, if_neg (not_le.mpr columns),
    if_neg (not_le.mpr rows)]
  rfl

end Elevation.Report
