import Elevation.Report.Coverage
import Elevation.Proofs.Decimal.Grains
import Elevation.Proofs.Outcome

/-!
Boxes of doubles. The edges of a box are compared where they must not be out of order, and again
where rows and columns are counted off. What is no number passes the first comparison and ends the
count at once: a box whose eastern or northern edge is no number is reported as one without cells.
Any other box that is reported is in order and has a cell.
-/

namespace Elevation.Report

section

variable {α : Type} [Scalar α] {index : Elevation.Coverage.Index} {west south east north : α}
  {lat : Int} {survey : Survey α}

/-! ### Reports over any numbers -/

structure Survey.Empty (survey : Survey α) : Prop where
  required : survey.required = 0
  available : survey.available = []
  missing : survey.missing = []
  fullyCovered : survey.fullyCovered = false

theorem Survey.empty_ofFindings_nil : (Survey.ofFindings [] : Survey α).Empty :=
  ⟨rfl, rfl, rfl, rfl⟩

theorem edges_ok {box : List α} (accepted : edges box = .ok (west, south, east, north)) :
    box = [west, south, east, north] ∧ Scalar.le east west = false ∧ Scalar.le north south = false := by
  unfold edges at accepted
  split at accepted
  · split_ifs at accepted with columns rows
    cases accepted
    exact ⟨rfl, by simpa using columns, by simpa using rows⟩
  · cases accepted

theorem surveyRow_ne_nil {lon : Int} {row : List Finding} (begun : Scalar.lt (Scalar.ofInt lon) east)
    (surveyed : surveyRow index east lat lon = .ok row) : row ≠ [] := by
  rw [surveyRow, if_pos begun] at surveyed
  split at surveyed
  · cases surveyed
  · obtain ⟨-, more⟩ := ite_eq_ok.mp surveyed
    obtain ⟨rest, -, rfl⟩ := map_eq_ok.mp more
    exact List.cons_ne_nil _ _

/-- The rows that have been surveyed: none, or rows without columns, or some with a cell. -/
theorem surveyRows_ok {findings : List Finding}
    (surveyed : surveyRows index west east north lat = .ok findings) :
    (Scalar.lt (Scalar.ofInt lat) north = false ∧ findings = []) ∨
      Scalar.lt (Scalar.ofInt lat) north = true ∧ ∃ lon, Scalar.floor west = .ok lon ∧
        ((Scalar.lt (Scalar.ofInt lon) east = false ∧ findings = []) ∨
          Scalar.lt (Scalar.ofInt lon) east = true ∧ findings ≠ []) := by
  rw [surveyRows] at surveyed
  by_cases rows : Scalar.lt (Scalar.ofInt lat) north = true
  · rw [if_pos rows] at surveyed
    refine Or.inr ⟨rows, ?_⟩
    cases floored : Scalar.floor west with
    | error reason =>
      rw [floored] at surveyed
      cases surveyed
    | ok lon =>
      simp only [floored] at surveyed
      refine ⟨lon, rfl, ?_⟩
      by_cases columns : Scalar.lt (Scalar.ofInt lon) east = true
      · rw [if_pos columns] at surveyed
        cases told : surveyRow index east lat lon with
        | error failure =>
          rw [told] at surveyed
          cases surveyed
        | ok row =>
          simp only [told] at surveyed
          obtain ⟨-, more⟩ := ite_eq_ok.mp surveyed
          obtain ⟨rest, -, rfl⟩ := map_eq_ok.mp more
          exact Or.inr ⟨columns, List.append_ne_nil_of_left_ne_nil (surveyRow_ne_nil columns told) _⟩
      · rw [if_neg columns] at surveyed
        refine Or.inl ⟨by simpa using columns, ?_⟩
        cases ended : Scalar.floor north with
        | error reason =>
          rw [ended] at surveyed
          cases surveyed
        | ok _ =>
          rw [ended] at surveyed
          exact (Except.ok.inj surveyed).symm
  · rw [if_neg rows] at surveyed
    exact Or.inl ⟨by simpa using rows, (Except.ok.inj surveyed).symm⟩

theorem checkCoverage_of_surveyRows {box : List α} {findings : List Finding}
    (accepted : edges box = .ok (west, south, east, north)) (floored : Scalar.floor south = .ok lat)
    (surveyed : surveyRows index west east north lat = .ok findings) :
    checkCoverage index box = .ok (.ofFindings findings) := by
  rw [checkCoverage, accepted]
  simp only [surveyEdges, floored, surveyed]
  rfl

theorem exists_surveyRows {box : List α} (reported : checkCoverage index box = .ok survey) :
    ∃ west south east north lat findings, box = [west, south, east, north] ∧
      Scalar.le east west = false ∧ Scalar.le north south = false ∧ Scalar.floor south = .ok lat ∧
      surveyRows index west east north lat = .ok findings ∧ Survey.ofFindings findings = survey := by
  unfold checkCoverage at reported
  cases accepted : edges box with
  | error failure =>
    rw [accepted] at reported
    cases reported
  | ok found =>
    obtain ⟨west, south, east, north⟩ := found
    simp only [accepted, surveyEdges] at reported
    obtain ⟨rfl, columns, rows⟩ := edges_ok accepted
    cases floored : Scalar.floor south with
    | error reason =>
      rw [floored] at reported
      cases reported
    | ok lat =>
      simp only [floored] at reported
      obtain ⟨findings, surveyed, rfl⟩ := map_eq_ok.mp reported
      exact ⟨_, _, _, _, lat, findings, rfl, columns, rows, floored, surveyed, rfl⟩

end

/-! ### Reports over doubles -/

section

open Decimal

variable {index : Elevation.Coverage.Index} {west south east north : Float} {lat : Int}
  {findings : List Finding}

theorem lt_eq_true {x y : Float} : Scalar.lt x y = true ↔ x < y := decide_eq_true_iff

theorem le_eq_false {x y : Float} : Scalar.le x y = false ↔ ¬ x ≤ y := decide_eq_false_iff_not

theorem lt_of_le_eq_false {x y : Float} {n : Int} (floored : Scalar.floor x = .ok n)
    (number : y.isNaN = false) (above : Scalar.le y x = false) : x < y :=
  lt_of_not_le (isNaN_of_floor floored) number (le_eq_false.mp above)

theorem lt_of_floor {x y : Float} {n : Int} (floored : Scalar.floor x = .ok n) (less : x < y) :
    Scalar.lt (Scalar.ofInt n) y = true :=
  lt_eq_true.mpr (lt_of_le_of_lt (ofInt_floor_le floored) less)

theorem lt_eq_false_of_isNaN {x y : Float} (none : y.isNaN = true) : Scalar.lt x y = false := by
  rw [← Bool.not_eq_true, lt_eq_true]
  exact not_lt_of_isNaN none

theorem surveyRows_numbers (columns : Scalar.le east west = false) (rows : Scalar.le north south = false)
    (floored : Scalar.floor south = .ok lat)
    (surveyed : surveyRows index west east north lat = .ok findings)
    (number : east.isNaN = false) (number' : north.isNaN = false) :
    west < east ∧ south < north ∧ findings ≠ [] := by
  have less := lt_of_le_eq_false floored number' rows
  rcases surveyRows_ok surveyed with ⟨none, -⟩ | ⟨-, lon, leftmost, row⟩
  · cases (lt_of_floor floored less).symm.trans none
  · have narrow := lt_of_le_eq_false leftmost number columns
    rcases row with ⟨none, -⟩ | ⟨-, some⟩
    · cases (lt_of_floor leftmost narrow).symm.trans none
    · exact ⟨narrow, less, some⟩

theorem surveyRows_isNaN (surveyed : surveyRows index west east north lat = .ok findings)
    (none : east.isNaN = true ∨ north.isNaN = true) : findings = [] := by
  rcases surveyRows_ok surveyed with ⟨-, rfl⟩ | ⟨begun, lon, -, ⟨-, rfl⟩ | ⟨begun', -⟩⟩
  · rfl
  · rfl
  · rcases none with none | none
    · cases begun'.symm.trans (lt_eq_false_of_isNaN none)
    · cases begun.symm.trans (lt_eq_false_of_isNaN none)

/-- A box that is reported is in order and has a cell exactly if its eastern and its northern edge are
numbers; otherwise there is nothing in the report. -/
theorem checkCoverage_ordered (index : Elevation.Coverage.Index) (west south east north : Float)
    (survey : Survey Float) (reported : checkCoverage index [west, south, east, north] = .ok survey) :
    (west < east ∧ south < north ∧ 1 ≤ survey.required ↔ east.isNaN = false ∧ north.isNaN = false) ∧
      (east.isNaN = true ∨ north.isNaN = true → survey.Empty) := by
  obtain ⟨west, south, east, north, lat, findings, same, columns, rows, floored, surveyed, rfl⟩ :=
    exists_surveyRows reported
  cases same
  refine ⟨⟨?_, ?_⟩, ?_⟩
  · rintro ⟨narrow, less, -⟩
    refine ⟨?_, ?_⟩ <;> by_contra none
    · exact not_lt_of_isNaN (by simpa using none) narrow
    · exact not_lt_of_isNaN (by simpa using none) less
  · rintro ⟨number, number'⟩
    obtain ⟨narrow, less, some⟩ := surveyRows_numbers columns rows floored surveyed number number'
    exact ⟨narrow, less, List.length_pos_iff.mpr some⟩
  · intro none
    rw [surveyRows_isNaN surveyed none]
    exact Survey.empty_ofFindings_nil

/-- A box of one cell, which is in order. -/
theorem checkCoverage_ordered_cell :
    ∃ survey, checkCoverage .empty [(4 : Float), 52, 5, 53] = .ok survey ∧ (4 : Float) < 5 ∧
      (52 : Float) < 53 ∧ 1 ≤ survey.required := by
  have west : Scalar.floor (4 : Float) = .ok 4 := rfl
  have found : find .empty ⟨52, 4⟩ = .ok ⟨⟨52, 4⟩, none⟩ := rfl
  have row : surveyRow .empty (5 : Float) 52 4 = .ok [⟨⟨52, 4⟩, none⟩] := by
    rw [surveyRow, if_pos (by decide +kernel), found]
    simp only
    rw [if_neg (by decide), surveyRow, if_neg (by decide +kernel)]
    rfl
  have rows : surveyRows .empty (4 : Float) 5 53 52 = .ok [⟨⟨52, 4⟩, none⟩] := by
    rw [surveyRows, if_pos (by decide +kernel), west]
    simp only
    rw [if_pos (by decide +kernel), row]
    simp only
    rw [if_neg (by decide), surveyRows, if_neg (by decide +kernel)]
    rfl
  have accepted : edges [(4 : Float), 52, 5, 53] = .ok (4, 52, 5, 53) := by
    rw [edges, if_neg (by decide +kernel), if_neg (by decide +kernel)]
  have reported := checkCoverage_of_surveyRows accepted rfl rows
  exact ⟨_, reported, (checkCoverage_ordered .empty 4 52 5 53 _ reported).1.mpr (by decide +kernel)⟩

/-- A box whose northern edge is no number is reported on. -/
theorem checkCoverage_unordered :
    ∃ survey, checkCoverage .empty [(4 : Float), 52, 5, 0 / 0] = .ok survey ∧
      ¬ (52 : Float) < 0 / 0 ∧ survey.required = 0 := by
  have rows : surveyRows .empty (4 : Float) 5 (0 / 0) 52 = .ok [] := by
    rw [surveyRows, if_neg (by decide +kernel)]
  have accepted : edges [(4 : Float), 52, 5, 0 / 0] = .ok (4, 52, 5, 0 / 0) := by
    rw [edges, if_neg (by decide +kernel), if_neg (by decide +kernel)]
  exact ⟨_, checkCoverage_of_surveyRows accepted rfl rows, by decide +kernel, rfl⟩

end

end Elevation.Report
