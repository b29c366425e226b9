import Elevation.Proofs.Coverage.Exact
import Elevation.Proofs.Report.Survey

/-!
What a report of a box says, cell by cell. The cells run from the floors of the southern and western
edge up to, but not on, the northern and eastern edge. If one of them is off the globe there is no
report; otherwise each of them is listed exactly once, with its partition or as missing, both lists
in the order of rows and columns, and the numbers of the report are those of the lists.
-/

namespace Elevation.Report

variable {index : Elevation.Coverage.Index} {west south east north : Rat} {cells : List Cell}

/-- The cells that the index has, each with its partition, and those that it has not, as they are
listed in the report of a box. -/
structure Enumerates (index : Elevation.Coverage.Index) (west south east north : Rat)
    (survey : Survey Rat) (held : List (Cell × String)) (missing : List Cell) : Prop where
  mem_held : ∀ cell partition, (cell, partition) ∈ held ↔
    Reaches west east north south.floor cell ∧ index.lookup cell.corner = .ok partition
  mem_missing : ∀ cell, cell ∈ missing ↔
    Reaches west east north south.floor cell ∧ index.covers cell.corner = .ok false
  held_ordered : (held.map Prod.fst).Pairwise Cell.Before
  missing_ordered : missing.Pairwise Cell.Before
  available_eq : survey.available = held.map fun area => area.2 ++ "/" ++ area.1.name
  missing_eq : survey.missing = missing.map Cell.name
  required_eq : (survey.required : Int) = (⌈north⌉ - ⌊south⌋) * (⌈east⌉ - ⌊west⌋)
  required_eq_add : survey.required = survey.available.length + survey.missing.length
  one_le_required : 1 ≤ survey.required
  fullyCovered_iff : survey.fullyCovered = true ↔ survey.missing = []

def heldOf (index : Elevation.Coverage.Index) (cells : List Cell) : List (Cell × String) :=
  cells.filterMap fun cell => (index.find? cell.key).map (cell, ·)

def missingOf (index : Elevation.Coverage.Index) (cells : List Cell) : List Cell :=
  cells.filter fun cell => (index.find? cell.key).isNone

theorem mem_heldOf {cell : Cell} {partition : String} :
    (cell, partition) ∈ heldOf index cells ↔ cell ∈ cells ∧ index.find? cell.key = some partition := by
  simp only [heldOf, List.mem_filterMap, Option.map_eq_some_iff, Prod.mk.injEq]
  constructor
  · rintro ⟨other, present, holder, held, rfl, rfl⟩
    exact ⟨present, held⟩
  · rintro ⟨present, held⟩
    exact ⟨cell, present, partition, held, rfl, rfl⟩

theorem map_fst_heldOf (index : Elevation.Coverage.Index) (cells : List Cell) :
    (heldOf index cells).map Prod.fst = cells.filter fun cell => (index.find? cell.key).isSome := by
  rw [heldOf, List.map_filterMap, ← List.filterMap_eq_filter]
  apply List.filterMap_congr
  intro cell _
  cases held : index.find? cell.key <;> simp [Option.guard, held]

theorem length_heldOf_add (index : Elevation.Coverage.Index) (cells : List Cell) :
    (heldOf index cells).length + (missingOf index cells).length = cells.length := by
  have split := List.length_eq_length_filter_add (l := cells) fun cell => (index.find? cell.key).isSome
  have same := congrArg List.length (map_fst_heldOf index cells)
  rw [List.length_map] at same
  simp only [Option.not_isSome] at split
  rw [same, missingOf, ← split]

theorem available_heldOf (index : Elevation.Coverage.Index) (cells : List Cell) :
    (Survey.ofFindings (cells.map (findingOf index)) : Survey Rat).available =
      (heldOf index cells).map fun area => area.2 ++ "/" ++ area.1.name := by
  rw [available_ofFindings, heldOf, List.filter_map, List.map_map, List.map_filterMap,
    ← List.filterMap_eq_filter, List.map_filterMap]
  apply List.filterMap_congr
  intro cell _
  cases held : index.find? cell.key <;>
    simp [Option.guard, findingOf, Finding.isAvailable, Finding.name, held]

theorem missing_missingOf (index : Elevation.Coverage.Index) (cells : List Cell) :
    (Survey.ofFindings (cells.map (findingOf index)) : Survey Rat).missing =
      (missingOf index cells).map Cell.name := by
  rw [missing_ofFindings, missingOf, List.filter_map, List.map_map, ← List.filterMap_eq_filter,
    ← List.filterMap_eq_filter, List.map_filterMap, List.map_filterMap]
  apply List.filterMap_congr
  intro cell _
  cases held : index.find? cell.key <;>
    simp [Option.guard, findingOf, Finding.isAvailable, Finding.name, held]

theorem length_boxCells_of_lt (columns : west < east) (rows : south < north) :
    ((boxCells west east north south.floor).length : Int) =
      (⌈north⌉ - ⌊south⌋) * (⌈east⌉ - ⌊west⌋) := by
  have tall : ⌊south⌋ < ⌈north⌉ := Int.lt_ceil.mpr ((Int.floor_le south).trans_lt rows)
  have wide : ⌊west⌋ < ⌈east⌉ := Int.lt_ceil.mpr ((Int.floor_le west).trans_lt columns)
  rw [length_boxCells, Nat.cast_mul]
  change (((⌈north⌉ - ⌊south⌋).toNat : Nat) : Int) * (((⌈east⌉ - ⌊west⌋).toNat : Nat) : Int) = _
  rw [Int.toNat_of_nonneg (by omega), Int.toNat_of_nonneg (by omega)]

theorem lookup_corner_iff (index : Elevation.Coverage.Index) {cell : Cell} (inside : cell.OnGlobe)
    (partition : String) :
    index.lookup cell.corner = .ok partition ↔ index.find? cell.key = some partition :=
  index.lookup_eq_ok_iff (cell.validate_corner.mpr inside) cell.cell_corner

theorem covers_corner_iff (index : Elevation.Coverage.Index) {cell : Cell} (inside : cell.OnGlobe) :
    index.covers cell.corner = .ok false ↔ index.find? cell.key = none := by
  rw [index.covers_of_cell (cell.validate_corner.mpr inside) cell.cell_corner, Except.ok.injEq,
    Elevation.Coverage.Index.contains, Option.isSome_eq_false_iff, Option.isNone_iff_eq_none]

theorem enumerates_boxCells (index : Elevation.Coverage.Index) (columns : west < east)
    (rows : south < north)
    (inside : ∀ cell, Reaches west east north south.floor cell → cell.OnGlobe) :
    Enumerates index west south east north
      (.ofFindings ((boxCells west east north south.floor).map (findingOf index)))
      (heldOf index (boxCells west east north south.floor))
      (missingOf index (boxCells west east north south.floor)) := by
  have ordered := pairwise_boxCells west east north south.floor
  have count := length_boxCells_of_lt columns rows
  have size := length_heldOf_add index (boxCells west east north south.floor)
  have first : (⟨south.floor, west.floor⟩ : Cell) ∈ boxCells west east north south.floor :=
    mem_boxCells.mpr ⟨le_rfl, (Rat.floor_le south).trans_lt rows, le_rfl,
      (Rat.floor_le west).trans_lt columns⟩
  have some := List.length_pos_of_mem first
  have available := available_heldOf index (boxCells west east north south.floor)
  have missing := missing_missingOf index (boxCells west east north south.floor)
  have required : (Survey.ofFindings ((boxCells west east north south.floor).map (findingOf index)) :
      Survey Rat).required = (boxCells west east north south.floor).length := List.length_map ..
  refine ⟨?_, ?_, ?_, ordered.filter _, available, missing, ?_, ?_, ?_, ?_⟩
  · intro cell partition
    rw [mem_heldOf, mem_boxCells]
    exact and_congr_right fun reached => (lookup_corner_iff index (inside cell reached) partition).symm
  · intro cell
    rw [missingOf, List.mem_filter, mem_boxCells, Option.isNone_iff_eq_none]
    exact and_congr_right fun reached => (covers_corner_iff index (inside cell reached)).symm
  · rw [map_fst_heldOf]
    exact ordered.filter _
  · rw [required, count]
  · rw [required, available, missing, List.length_map, List.length_map, size]
  · rw [required]
    exact some
  · rw [fullyCovered_ofFindings, List.length_map]
    exact and_iff_right some

/-- A box either reaches off the globe and is rejected, or its report lists each of its cells. -/
theorem checkCoverage_enumerates (index : Elevation.Coverage.Index) (west south east north : Rat)
    (columns : west < east) (rows : south < north) :
    ((∃ failure, checkCoverage index [west, south, east, north] = .error failure ∧
        failure.kind = "ValueError") ↔
      ∃ cell, Reaches west east north south.floor cell ∧ ¬ cell.OnGlobe) ∧
    ((∀ cell, Reaches west east north south.floor cell → cell.OnGlobe) →
      ∃ survey held missing, checkCoverage index [west, south, east, north] = .ok survey ∧
        Enumerates index west south east north survey held missing) := by
  have tells := tells_surveyRows index columns north south.floor
  rw [checkCoverage_eq index columns rows]
  have reported (all : ∀ cell, Reaches west east north south.floor cell → cell.OnGlobe) :=
    congrArg (Except.map (Survey.ofFindings (α := Rat)))
      (tells.told fun cell present => all cell (mem_boxCells.mp present))
  constructor
  · constructor
    · rintro ⟨failure, failed, -⟩
      by_contra! all
      cases failed.symm.trans (reported all)
    · rintro ⟨cell, reached, off⟩
      obtain ⟨failure, failed, kind⟩ := tells.rejected ⟨cell, mem_boxCells.mpr reached, off⟩
      exact ⟨failure, map_eq_error.mpr failed, kind⟩
  · intro all
    exact ⟨_, _, _, reported all, enumerates_boxCells index columns rows all⟩

def gulf : Elevation.Coverage.Index := Elevation.Coverage.Index.empty.push (Cell.mk 0 0).key "Africa"

/-- Around the middle of the grid, a box wider than one degree and lower than one degree reaches six
cells. -/
theorem checkCoverage_enumerates_gulf :
    ((-1 / 2 : Rat) < 3 / 2 ∧ (-1 / 4 : Rat) < 1 / 4) ∧
      ∃ survey, checkCoverage gulf [(-1 / 2 : Rat), -1 / 4, 3 / 2, 1 / 4] = .ok survey ∧
        survey.required = 6 ∧ "Africa/N00E000" ∈ survey.available := by
  have columns : (-1 / 2 : Rat) < 3 / 2 := by norm_num
  have rows : (-1 / 4 : Rat) < 1 / 4 := by norm_num
  have west : (-1 / 2 : Rat).floor = -1 := by decide +kernel
  have south : (-1 / 4 : Rat).floor = -1 := by decide +kernel
  have inside : ∀ cell, Reaches (-1 / 2) (3 / 2) (1 / 4) (-1 / 4 : Rat).floor cell → cell.OnGlobe := by
    rintro cell ⟨low, high, left, right⟩
    rw [west] at left
    rw [south] at low
    have high' : cell.lat < 1 := by exact_mod_cast high.trans (by norm_num : (1 / 4 : Rat) < 1)
    have right' : cell.lon < 2 := by exact_mod_cast right.trans (by norm_num : (3 / 2 : Rat) < 2)
    exact ⟨by omega, by omega⟩
  obtain ⟨survey, held, missing, surveyed, lists⟩ :=
    (checkCoverage_enumerates gulf _ _ _ _ columns rows).2 inside
  have middle : Reaches (-1 / 2) (3 / 2) (1 / 4) (-1 / 4 : Rat).floor ⟨0, 0⟩ :=
    ⟨by rw [south]; decide, by norm_num, by rw [west]; decide, by norm_num⟩
  have listed : ((⟨0, 0⟩ : Cell), "Africa") ∈ held :=
    (lists.mem_held _ _).mpr ⟨middle, (lookup_corner_iff gulf (inside _ middle) _).mpr (by decide)⟩
  refine ⟨⟨columns, rows⟩, survey, surveyed, ?_, ?_⟩
  · have required : (survey.required : Int) = 6 := by
      rw [lists.required_eq]
      decide +kernel
    exact_mod_cast required
  · rw [lists.available_eq]
    exact List.mem_map.mpr ⟨_, listed, by decide⟩

end Elevation.Report
