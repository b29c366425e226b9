import Elevation.Proofs.Provider.Area
import Elevation.Proofs.Report.Survey
import Elevation.Standin.Basic

/-!
The survey of a box against the look-up of single places.

A box reaches whole cells up to its northern and eastern edge, whereas a place is cut to its cell by
the snapping floor. The two agree unless the snap lifts a place onto an edge of the box, or past it.
-/

namespace Elevation.Report

variable {index : Elevation.Coverage.Index} {west south east north : Rat}

theorem lookup_of_held {place : Place Rat} {cell : Cell} {partition : String}
    (located : place.cell = .ok cell) (valid : place.validate = .ok ())
    (held : index.find? cell.key = some partition) : index.lookup place = .ok partition := by
  simp only [Coverage.Index.lookup, valid, Place.key, located, Except.map, held]

theorem lookup_of_absent {place : Place Rat} {cell : Cell} (located : place.cell = .ok cell)
    (valid : place.validate = .ok ()) (absent : index.find? cell.key = none) :
    index.lookup place =
      .error (.areaNotFound cell.key (Scalar.text place.lat) (Scalar.text place.lon)) := by
  simp only [Coverage.Index.lookup, valid, Place.key, located, Except.map, absent]

theorem found_lookup_of_held {place : Place Rat} {cell : Cell} {partition : String}
    (located : place.cell = .ok cell) (held : index.find? cell.key = some partition) :
    Found (index.lookup place) := by
  cases checked : place.validate with
  | ok _ =>
    rw [lookup_of_held located checked held]
    exact .ok partition
  | error failure =>
    have invalid := found_validate place
    rw [checked] at invalid
    simp only [Coverage.Index.lookup, checked]
    exact invalid.error_cast

/-- The cell of a place in a box is one that the box reaches, unless it begins at an edge. -/
theorem reaches_of_mem {place : Place Rat} {cell : Cell} (located : place.cell = .ok cell)
    (low : west ≤ place.lon ∧ south ≤ place.lat)
    (high : (cell.lat : Rat) < north ∧ (cell.lon : Rat) < east) :
    Reaches west east north south.floor cell := by
  rw [cell_rat, Except.ok.injEq] at located
  subst located
  exact ⟨(Rat.floor_monotone low.2).trans (floor_le_snapped place.lat), high.1,
    (Rat.floor_monotone low.1).trans (floor_le_snapped place.lon), high.2⟩

/-- A coordinate below an edge has its cell below the edge too, or is snapped to an integer at or
above the edge. -/
theorem snapped_edge {x edge : Rat} (below : x < edge) :
    (snapped x : Rat) < edge ∨
      edge ≤ snapped x ∧ snapped x ≤ 0 ∧ (snapped x : Rat) - x < 1 / 100000 := by
  rcases snapped_cases x with under | ⟨-, negative, close⟩
  · exact Or.inl (lt_of_le_of_lt under below)
  · by_cases inside : (snapped x : Rat) < edge
    · exact Or.inl inside
    · exact Or.inr ⟨not_lt.mp inside, negative, close⟩

/-- A report lists the tile of every place in its box as the look-up of the place has it, where the
cell of the place begins inside the box; elsewhere the snap has lifted the place onto an edge. -/
theorem checkCoverage_agrees [Machine] (index : Elevation.Coverage.Index) (west south east north : Rat)
    (survey : Survey Rat) (surveyed : checkCoverage index [west, south, east, north] = .ok survey)
    (place : Place Rat) (columns : west ≤ place.lon ∧ place.lon < east)
    (rows : south ≤ place.lat ∧ place.lat < north) :
    ∃ cell : Cell, place.cell = .ok cell ∧ place.name = .ok cell.name ∧
      ((cell.lat : Rat) < north ∨
        north ≤ cell.lat ∧ cell.lat ≤ 0 ∧ (cell.lat : Rat) - place.lat < 1 / 100000) ∧
      ((cell.lon : Rat) < east ∨
        east ≤ cell.lon ∧ cell.lon ≤ 0 ∧ (cell.lon : Rat) - place.lon < 1 / 100000) ∧
      ((cell.lat : Rat) < north → (cell.lon : Rat) < east →
        (cell.name ∈ survey.missing ∨
          ∃ partition, partition ++ "/" ++ cell.name ∈ survey.available) ∧
        (place.validate = .ok () →
          (∀ partition, partition ++ "/" ++ cell.name ∈ survey.available ↔
            index.lookup place = .ok partition) ∧
          (cell.name ∈ survey.missing ↔ index.lookup place =
            .error (.areaNotFound cell.key (Scalar.text place.lat) (Scalar.text place.lon)))) ∧
        (survey.fullyCovered = true → ∀ (σ : Type) (provider : Provider σ) (world : World σ),
          provider.index = index → Found (provider.elevationAt place world).1)) := by
  have located := cell_rat place
  have named : place.name = .ok (⟨snapped place.lat, snapped place.lon⟩ : Cell).name := by
    simp only [Place.name, located, Except.map]
  refine ⟨_, located, named, snapped_edge rows.2, snapped_edge columns.2, ?_⟩
  intro high right
  have reached := reaches_of_mem located ⟨columns.1, rows.1⟩ ⟨high, right⟩
  generalize (⟨snapped place.lat, snapped place.lon⟩ : Cell) = cell at *
  have available := fun partition => mem_available_iff surveyed partition cell
  have missing := mem_missing_iff surveyed cell
  cases held : index.find? cell.key with
  | none =>
    have listed : cell.name ∈ survey.missing := missing.mpr ⟨reached, held⟩
    refine ⟨Or.inl listed, fun valid => ?_, fun covered => ?_⟩
    · rw [lookup_of_absent located valid held]
      exact ⟨fun partition => by simp [available, held], by simp [listed]⟩
    · rw [(fullyCovered_iff surveyed).mp covered |>.2] at listed
      cases listed
  | some partition =>
    refine ⟨Or.inr ⟨partition, (available partition).mpr ⟨reached, held⟩⟩, fun valid => ?_, ?_⟩
    · rw [lookup_of_held located valid held]
      refine ⟨fun other => ?_, by simp [missing, held]⟩
      rw [available, held, Except.ok.injEq, Option.some.injEq, and_iff_right reached]
    · rintro - σ provider world rfl
      exact Provider.found_elevationAt (found_lookup_of_held located held) world

/-! ### Where the two part -/

def outposts : Elevation.Coverage.Index :=
  (Elevation.Coverage.Index.empty.push (Cell.mk (-5) 0).key "Africa").push (Cell.mk 90 0).key "Islands"

/-- A place just south of the northern edge of a box is snapped onto a tile that the report does not
list; and a tile is listed as available although its places north of the pole cannot be looked up. -/
theorem checkCoverage_disagrees :
    (∃ survey, checkCoverage outposts [(0 : Rat), -5, 1, -4] = .ok survey ∧
      survey.fullyCovered = true ∧ survey.available = ["Africa/S05E000"] ∧ survey.missing = []) ∧
    ((-5 : Rat) ≤ -800001 / 200000 ∧ (-800001 / 200000 : Rat) < -4) ∧
    (⟨-800001 / 200000, 1 / 2⟩ : Place Rat).name = .ok "S04E000" ∧
    outposts.lookup (⟨-800001 / 200000, 1 / 2⟩ : Place Rat) =
      .error (.areaNotFound 86180 "-800001/200000" "1/2") ∧
    (∃ survey, checkCoverage outposts [(0 : Rat), 90, 1, 181 / 2] = .ok survey ∧
      survey.fullyCovered = true ∧ survey.available = ["Islands/N90E000"] ∧ survey.missing = []) ∧
    ((90 : Rat) ≤ 451 / 5 ∧ (451 / 5 : Rat) < 181 / 2) ∧
    (⟨451 / 5, 1 / 2⟩ : Place Rat).name = .ok "N90E000" ∧
    outposts.lookup (⟨451 / 5, 1 / 2⟩ : Place Rat) = .error (.latitudeOutside "451/5") := by
  have middle : snapped (1 / 2) = 0 := by decide +kernel
  have southern : (⟨-800001 / 200000, 1 / 2⟩ : Place Rat).cell = .ok ⟨-4, 0⟩ := by
    rw [cell_rat, middle, show snapped (-800001 / 200000) = -4 by decide +kernel]
  have northern : (⟨451 / 5, 1 / 2⟩ : Place Rat).cell = .ok ⟨90, 0⟩ := by
    rw [cell_rat, middle, show snapped (451 / 5) = 90 by decide +kernel]
  have valid : (⟨-800001 / 200000, 1 / 2⟩ : Place Rat).validate = .ok () :=
    (validate_rat _).mpr (by norm_num)
  have south : checkCoverage outposts [(0 : Rat), -5, 1, -4] =
      .ok (.ofFindings [findingOf outposts ⟨-5, 0⟩]) :=
    checkCoverage_of_corner outposts ⟨-5, 0⟩ (by norm_num) (by norm_num) rfl (by decide)
  have north : checkCoverage outposts [(0 : Rat), 90, 1, 181 / 2] =
      .ok (.ofFindings [findingOf outposts ⟨90, 0⟩]) :=
    checkCoverage_of_corner outposts ⟨90, 0⟩ (by norm_num) (by norm_num) rfl (by decide)
  refine ⟨⟨_, south, rfl, ?_, rfl⟩, by norm_num, ?_, ?_, ⟨_, north, rfl, ?_, rfl⟩, by norm_num, ?_, ?_⟩
  · decide
  · rw [Place.name, southern]
    exact congrArg Except.ok (by decide)
  · rw [lookup_of_absent southern valid (by decide)]
    rw [show Scalar.text (-800001 / 200000 : Rat) = "-800001/200000" by decide +kernel,
      show Scalar.text (1 / 2 : Rat) = "1/2" by decide +kernel]
    rfl
  · decide
  · rw [Place.name, northern]
    exact congrArg Except.ok (by decide)
  · have lat : Place.inRange (-90) 90 (451 / 5 : Rat) = false := by decide +kernel
    have text : Scalar.text (451 / 5 : Rat) = "451/5" := by decide +kernel
    simp only [Coverage.Index.lookup, Place.validate, lat, text]
    rfl

open scoped Standin

/-- A place in the middle of a listed cell. -/
theorem checkCoverage_agrees_outposts :
    ∃ survey, checkCoverage outposts [(0 : Rat), -5, 1, -4] = .ok survey ∧
      outposts.lookup (⟨-9 / 2, 1 / 2⟩ : Place Rat) = .ok "Africa" := by
  have south : checkCoverage outposts [(0 : Rat), -5, 1, -4] =
      .ok (.ofFindings [findingOf outposts ⟨-5, 0⟩]) :=
    checkCoverage_of_corner outposts ⟨-5, 0⟩ (by norm_num) (by norm_num) rfl (by decide)
  have located : (⟨-9 / 2, 1 / 2⟩ : Place Rat).cell = .ok ⟨-5, 0⟩ := by
    rw [cell_rat, show snapped (-9 / 2) = -5 by decide +kernel, show snapped (1 / 2) = 0 by decide +kernel]
  have valid : (⟨-9 / 2, 1 / 2⟩ : Place Rat).validate = .ok () := (validate_rat _).mpr (by norm_num)
  obtain ⟨cell, same, -, -, -, agrees⟩ := checkCoverage_agrees outposts 0 (-5) 1 (-4) _ south
    ⟨-9 / 2, 1 / 2⟩ (by norm_num) (by norm_num)
  rw [located, Except.ok.injEq] at same
  subst same
  obtain ⟨-, agreed, -⟩ := agrees (by norm_num) (by norm_num)
  exact ⟨_, south, ((agreed valid).1 "Africa").mp (by decide)⟩

end Elevation.Report
