import Elevation.Proofs.Decimal.Rounding
import Elevation.Proofs.Report.Enumeration
import Elevation.Proofs.Report.Ordered

/-!
The share of available cells in a report, as an exact quotient in percent with one decimal place. A
tenth of a percent is one in a thousand, and half of it is rounded away: up to one missing cell in two
thousand the share is a hundred, and up to one available cell in two thousand it is zero.
-/

namespace Elevation.Report

variable {available required : Nat}

/-! ### Shares -/

theorem shareOf_rat (some : 0 < required) : (shareOf available required : Rat) =
    (nearestInteger (available / required * 1000) : Rat) / 10 := by
  have thousand : ((available : Int) : Rat) / ((required : Int) : Rat) * ((100 : Int) : Rat) * 10 =
      available / required * 1000 := by
    push_cast
    ring
  rw [shareOf, if_neg some.ne', ← thousand]
  rfl

theorem shareOf_eq_iff (some : 0 < required) (n : Int) : (shareOf available required : Rat) = n / 10 ↔
    nearestInteger (available / required * 1000) = n := by
  rw [shareOf_rat some, div_left_inj' (by norm_num), Int.cast_inj]

theorem shareOf_eq_hundred_iff (some : 0 < required) (part : available ≤ required) :
    (shareOf available required : Rat) = 100 ↔ 2000 * (required - available) ≤ required := by
  have positive : (0 : Rat) < required := by exact_mod_cast some
  have whole : (available : Rat) / required ≤ 1 := (div_le_one positive).mpr (by exact_mod_cast part)
  have most : nearestInteger ((available : Rat) / required * 1000) ≤ 1000 :=
    nearestInteger_le_iff.mpr (Or.inl (by push_cast; linarith))
  have least : nearestInteger ((available : Rat) / required * 1000) ≤ 999 ↔
      ¬ 2000 * (required - available) ≤ required := by
    have odd : ¬ Even (999 : Int) := by decide
    have cut : (available : Rat) / required * 1000 < 999 + 1 / 2 ↔ available * 2000 < required * 1999 := by
      rw [div_mul_eq_mul_div, div_lt_iff₀ positive, ← @Nat.cast_lt Rat]
      push_cast
      constructor <;> intro <;> linarith
    rw [nearestInteger_le_iff, Int.cast_ofNat, cut]
    simp only [odd, and_false, or_false]
    omega
  rw [show (100 : Rat) = ((1000 : Int) : Rat) / 10 by norm_num, shareOf_eq_iff some]
  omega

theorem shareOf_eq_zero_iff (some : 0 < required) :
    (shareOf available required : Rat) = 0 ↔ 2000 * available ≤ required := by
  have positive : (0 : Rat) < required := by exact_mod_cast some
  have nonneg : 0 ≤ (available : Rat) / required * 1000 := by positivity
  have least : 0 ≤ nearestInteger ((available : Rat) / required * 1000) :=
    nearestInteger_nonneg_iff.mpr (by linarith)
  have most : nearestInteger ((available : Rat) / required * 1000) ≤ 0 ↔ 2000 * available ≤ required := by
    have cut : (available : Rat) / required * 1000 ≤ 1 / 2 ↔ 2000 * available ≤ required := by
      rw [div_mul_eq_mul_div, div_le_iff₀ positive, ← @Nat.cast_le Rat]
      push_cast
      constructor <;> intro <;> linarith
    rw [nearestInteger_le_iff, ← cut, le_iff_lt_or_eq]
    simp
  rw [show (0 : Rat) = ((0 : Int) : Rat) / 10 by norm_num, shareOf_eq_iff some]
  omega

/-! ### Shares in reports -/

section

variable {α : Type} [Scalar α] {index : Elevation.Coverage.Index} {box : List α} {survey : Survey α}

structure Survey.Tallies (survey : Survey α) : Prop where
  required : survey.required = survey.available.length + survey.missing.length
  percentage : survey.percentage = shareOf survey.available.length survey.required
  fullyCovered : survey.fullyCovered = true ↔ 0 < survey.required ∧ survey.missing = []

theorem tallies_ofFindings (findings : List Finding) : (Survey.ofFindings findings : Survey α).Tallies := by
  have split := List.length_eq_length_filter_add (l := findings) Finding.isAvailable
  constructor
  · simpa [Survey.ofFindings, List.partition_eq_filter_filter, Function.comp_def] using split
  · simp [Survey.ofFindings, List.partition_eq_filter_filter]
  · simp [Survey.ofFindings, List.partition_eq_filter_filter]

theorem tallies_of_checkCoverage (reported : checkCoverage index box = .ok survey) : survey.Tallies := by
  obtain ⟨_, _, _, _, _, findings, -, -, -, -, -, rfl⟩ := exists_surveyRows reported
  exact tallies_ofFindings findings

/-- The share that a report gives, with the quotient taken exactly. The share in doubles can differ at a
tie: one cell of 2000 has 0.0 exactly and 0.1 in doubles. -/
def Survey.share (survey : Survey α) : Rat := shareOf survey.available.length survey.required

/-- The share in a report with a cell is a hundred exactly if at most one cell in two thousand is
missing, and zero exactly if at most one in two thousand is available. Where fewer than two thousand
cells are required, it is a hundred exactly for a full cover, and zero exactly if no cell is available. -/
theorem share_agrees (reported : checkCoverage index box = .ok survey) (some : 0 < survey.required) :
    survey.percentage = shareOf survey.available.length survey.required ∧
    (survey.share = 100 ↔ 2000 * survey.missing.length ≤ survey.required) ∧
    (survey.share = 0 ↔ 2000 * survey.available.length ≤ survey.required) ∧
    (survey.fullyCovered = true → survey.share = 100) ∧ (survey.available = [] → survey.share = 0) ∧
    (survey.required < 2000 →
      (survey.share = 100 ↔ survey.fullyCovered = true) ∧ (survey.share = 0 ↔ survey.available = [])) := by
  obtain ⟨required, percentage, covered⟩ := tallies_of_checkCoverage reported
  have hundred : survey.share = 100 ↔ 2000 * survey.missing.length ≤ survey.required := by
    rw [Survey.share, shareOf_eq_hundred_iff some (by omega), required, Nat.add_sub_cancel_left]
  have zero : survey.share = 0 ↔ 2000 * survey.available.length ≤ survey.required := shareOf_eq_zero_iff some
  rw [hundred, zero, covered, ← List.length_eq_zero_iff, ← List.length_eq_zero_iff]
  exact ⟨percentage, Iff.rfl, Iff.rfl, by omega, by omega, by omega⟩

end

/-! ### Where the share says nothing -/

def lone : Elevation.Coverage.Index := Elevation.Coverage.Index.empty.push (Cell.mk 0 0).key "Africa"

theorem checkCoverage_lone {east north : Rat} (columns : 0 < east) (rows : 0 < north)
    (onGlobe : ∀ cell ∈ boxCells 0 east north 0, cell.OnGlobe) :
    checkCoverage lone [(0 : Rat), 0, east, north] =
      .ok (.ofFindings ((boxCells 0 east north 0).map (findingOf lone))) := by
  rw [checkCoverage_eq lone columns rows, show (0 : Rat).floor = 0 from rfl,
    (tells_surveyRows lone columns north 0).told onGlobe]
  rfl

/-- One available cell of two. -/
theorem share_agrees_pair : ∃ survey, checkCoverage lone [(0 : Rat), 0, 2, 1] = .ok survey ∧
    0 < survey.required ∧ ¬ survey.share = 100 ∧ ¬ survey.share = 0 := by
  have reported := @checkCoverage_lone 2 1 (by norm_num) (by norm_num) (by decide +kernel)
  refine ⟨_, reported, by decide +kernel, ?_⟩
  obtain ⟨-, -, -, -, -, agrees⟩ := share_agrees reported (by decide +kernel)
  obtain ⟨hundred, zero⟩ := agrees (by decide +kernel)
  rw [hundred, zero]
  decide +kernel

/-- A report with an available cell whose share is shown as zero. -/
theorem share_disagrees : ∃ survey, checkCoverage lone [(0 : Rat), 0, 87, 23] = .ok survey ∧
    survey.required = 2001 ∧ survey.available = ["Africa/N00E000"] ∧ survey.percentage = 0 := by
  have reported := @checkCoverage_lone 87 23 (by norm_num) (by norm_num) (by decide +kernel)
  refine ⟨_, reported, by decide +kernel, by decide +kernel, by decide +kernel⟩

end Elevation.Report
