import Elevation.Proofs.Grid.Name
import Elevation.Proofs.Grid.Snap
import Elevation.Proofs.Report.Enumeration

/-!
What the survey of a box lists. The cells are those whose corners lie from the floor of the western
and southern edge up to, but not on, the eastern and northern edge, each with its partition if the
index has one.
-/

namespace Elevation.Report

variable {index : Elevation.Coverage.Index} {west south east north : Rat} {finding : Finding}
  {findings : List Finding}

theorem mem_surveyRows {lat : Int} (columns : west < east)
    (surveyed : surveyRows index west east north lat = .ok findings) :
    finding ∈ findings ↔
      ∃ cell, Reaches west east north lat cell ∧ finding = findingOf index cell := by
  have all := (tells_surveyRows index columns north lat).ok surveyed
  simp only [all, List.mem_map, mem_boxCells, eq_comm]

theorem checkCoverage_ok {survey : Survey Rat}
    (surveyed : checkCoverage index [west, south, east, north] = .ok survey) :
    west < east ∧ south < north ∧ ∃ findings,
      surveyRows index west east north south.floor = .ok findings ∧ survey = .ofFindings findings := by
  have order (p q : Rat) : Scalar.le p q = decide (p ≤ q) := rfl
  simp only [checkCoverage, edges, order, decide_eq_true_eq] at surveyed
  split_ifs at surveyed with columns rows
  obtain ⟨findings, found, rfl⟩ := map_eq_ok.mp surveyed
  exact ⟨not_le.mp columns, not_le.mp rows, findings, found, rfl⟩

theorem checkCoverage_of_corner (index : Elevation.Coverage.Index) (cell : Cell)
    (columns : (cell.lon : Rat) < east ∧ east ≤ ((cell.lon + 1 : Int) : Rat))
    (rows : (cell.lat : Rat) < north ∧ north ≤ ((cell.lat + 1 : Int) : Rat))
    (valid : (⟨cell.lat, cell.lon⟩ : Place Int).validate = .ok ())
    (bounds : cell.lat ≤ 90 ∧ cell.lon ≤ 180) :
    checkCoverage index [(cell.lon : Rat), (cell.lat : Rat), east, north] =
      .ok (.ofFindings [findingOf index cell]) := by
  have order (p q : Rat) : Scalar.le p q = decide (p ≤ q) := rfl
  have floored (n : Int) : Scalar.floor (n : Rat) = .ok n := congrArg Except.ok (Rat.floor_intCast n)
  have found : find index ⟨cell.lat, cell.lon⟩ = .ok (findingOf index cell) := by
    simp only [find, valid]
    rfl
  have row : surveyRow index east cell.lat cell.lon = .ok [findingOf index cell] := by
    rw [surveyRow, if_pos ((lt_rat _ _).mpr columns.1), found]
    simp only [if_neg (not_lt.mpr bounds.2)]
    rw [surveyRow, if_neg (by rw [lt_rat]; exact not_lt.mpr columns.2)]
    rfl
  have all : surveyRows index (cell.lon : Rat) east north cell.lat = .ok [findingOf index cell] := by
    rw [surveyRows, if_pos ((lt_rat _ _).mpr rows.1), floored]
    simp only [if_pos ((lt_rat _ _).mpr columns.1), row, if_neg (not_lt.mpr bounds.1)]
    rw [surveyRows, if_neg (by rw [lt_rat]; exact not_lt.mpr rows.2)]
    rfl
  simp only [checkCoverage, edges, order, decide_eq_true_eq, if_neg (not_le.mpr columns.1),
    if_neg (not_le.mpr rows.1), surveyEdges, floored, all]
  rfl

/-! ### Names in a report -/

theorem available_ofFindings (findings : List Finding) :
    (Survey.ofFindings findings : Survey Rat).available =
      (findings.filter Finding.isAvailable).map Finding.name := by
  simp [Survey.ofFindings, List.partition_eq_filter_filter]

theorem missing_ofFindings (findings : List Finding) :
    (Survey.ofFindings findings : Survey Rat).missing =
      (findings.filter fun finding => !finding.isAvailable).map Finding.name := by
  simp [Survey.ofFindings, List.partition_eq_filter_filter, Function.comp_def]

theorem fullyCovered_ofFindings (findings : List Finding) :
    (Survey.ofFindings findings : Survey Rat).fullyCovered = true ↔
      0 < findings.length ∧ (Survey.ofFindings findings : Survey Rat).missing = [] := by
  simp [Survey.ofFindings]

theorem fullyCovered_iff {survey : Survey Rat}
    (surveyed : checkCoverage index [west, south, east, north] = .ok survey) :
    survey.fullyCovered = true ↔ 0 < survey.required ∧ survey.missing = [] := by
  obtain ⟨-, -, findings, -, rfl⟩ := checkCoverage_ok surveyed
  exact fullyCovered_ofFindings findings

theorem mem_available_iff {survey : Survey Rat}
    (surveyed : checkCoverage index [west, south, east, north] = .ok survey) (partition : String)
    (cell : Cell) : partition ++ "/" ++ cell.name ∈ survey.available ↔
      Reaches west east north south.floor cell ∧ index.find? cell.key = some partition := by
  obtain ⟨columns, -, findings, found, rfl⟩ := checkCoverage_ok surveyed
  rw [available_ofFindings, List.mem_map]
  constructor
  · rintro ⟨finding, present, named⟩
    obtain ⟨listed, available⟩ := List.mem_filter.mp present
    obtain ⟨other, reached, rfl⟩ := (mem_surveyRows columns found).mp listed
    cases held : index.find? other.key with
    | none => simp [findingOf, Finding.isAvailable, held] at available
    | some holder =>
      simp only [findingOf, Finding.name, held] at named
      obtain ⟨rfl, rfl⟩ := append_slash_inj named
      exact ⟨reached, held⟩
  · rintro ⟨reached, held⟩
    refine ⟨findingOf index cell, List.mem_filter.mpr ⟨?_, ?_⟩, ?_⟩
    · exact (mem_surveyRows columns found).mpr ⟨cell, reached, rfl⟩
    · simp [findingOf, Finding.isAvailable, held]
    · simp [findingOf, Finding.name, held]

theorem mem_missing_iff {survey : Survey Rat}
    (surveyed : checkCoverage index [west, south, east, north] = .ok survey) (cell : Cell) :
    cell.name ∈ survey.missing ↔
      Reaches west east north south.floor cell ∧ index.find? cell.key = none := by
  obtain ⟨columns, -, findings, found, rfl⟩ := checkCoverage_ok surveyed
  rw [missing_ofFindings, List.mem_map]
  constructor
  · rintro ⟨finding, present, named⟩
    obtain ⟨listed, missing⟩ := List.mem_filter.mp present
    obtain ⟨other, reached, rfl⟩ := (mem_surveyRows columns found).mp listed
    cases held : index.find? other.key with
    | some holder => simp [findingOf, Finding.isAvailable, held] at missing
    | none =>
      simp only [findingOf, Finding.name, held] at named
      cases Cell.name_injective named
      exact ⟨reached, held⟩
  · rintro ⟨reached, held⟩
    refine ⟨findingOf index cell, List.mem_filter.mpr ⟨?_, ?_⟩, ?_⟩
    · exact (mem_surveyRows columns found).mpr ⟨cell, reached, rfl⟩
    · simp [findingOf, Finding.isAvailable, held]
    · simp [findingOf, Finding.name, held]

end Elevation.Report
