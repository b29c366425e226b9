import Elevation.Proofs.Report.Enumeration
import Elevation.Proofs.Report.Ordered
import Elevation.Report.Sweep

/-!
How long the survey of a box takes. The edges of a box may lie anywhere, so that they do not bound its
sweep; the globe does, since the sweep is over with the first cell that is not on it. What the globe
cannot bound are rows in which no cell is tested: they are swept up to the northern edge, and without
end if that is infinite.
-/

namespace Elevation.Report

section

variable {α : Type} [Scalar α]

namespace Sweep

def after (index : Elevation.Coverage.Index) (west south east north : α) (steps : Nat) : Sweep :=
  (step index west east north)^[steps] (start west south east north)

/-! ### Single steps -/

/-- All that a step can do. -/
inductive Moves (index : Elevation.Coverage.Index) (west east north : α) : Sweep → Sweep → Prop where
  | finish {lat : Int} {found : List Finding} {tested : Nat} (past : exceeds north lat = false) :
    Moves index west east north (.row lat found tested) (.ended (.ok found) tested)
  | unplaced {lat : Int} {found : List Finding} {tested : Nat} {reason : NoInteger}
    (begun : exceeds north lat = true) (floored : Scalar.floor west = .error reason) :
    Moves index west east north (.row lat found tested) (.ended (.error (.noInteger reason)) tested)
  | enter {lat lon : Int} {found : List Finding} {tested : Nat}
    (begun : exceeds north lat = true) (floored : Scalar.floor west = .ok lon) :
    Moves index west east north (.row lat found tested) (.cell lat lon found tested)
  | leave {lat lon : Int} {found : List Finding} {tested : Nat} (past : exceeds east lon = false) :
    Moves index west east north (.cell lat lon found tested) (.row (lat + 1) found tested)
  | refuse {lat lon : Int} {found : List Finding} {tested : Nat} {failure : Failure}
    (begun : exceeds east lon = true) (failed : find index ⟨lat, lon⟩ = .error failure) :
    Moves index west east north (.cell lat lon found tested) (.ended (.error failure) (tested + 1))
  | tell {lat lon : Int} {found : List Finding} {tested : Nat} {finding : Finding}
    (begun : exceeds east lon = true) (told : find index ⟨lat, lon⟩ = .ok finding)
    (rows : -90 ≤ lat ∧ lat ≤ 90) (columns : -180 ≤ lon ∧ lon ≤ 180) :
    Moves index west east north (.cell lat lon found tested)
      (.cell lat (lon + 1) (found ++ [finding]) (tested + 1))
  | stay {outcome : Except Failure (List Finding)} {tested : Nat} :
    Moves index west east north (.ended outcome tested) (.ended outcome tested)

variable {index : Elevation.Coverage.Index} {west south east north : α} {lat lon : Int}
  {sweep next : Sweep}

theorem moves_step (sweep : Sweep) :
    Moves index west east north sweep (step index west east north sweep) := by
  cases sweep with
  | ended outcome tested => exact .stay
  | row lat found tested =>
    simp only [step]
    split_ifs with begun
    · split
      · exact .unplaced begun ‹_›
      · exact .enter begun ‹_›
    · exact .finish (by simpa using begun)
  | cell lat lon found tested =>
    simp only [step]
    split_ifs with begun
    · split
      · exact .refuse begun ‹_›
      · rename_i finding told
        obtain ⟨inside, -⟩ := find_ok told
        exact .tell begun told inside.1 inside.2
    · exact .leave (by simpa using begun)

theorem after_induction {Kept : Sweep → Prop} (first : Kept (start west south east north))
    (kept : ∀ {sweep next}, Moves index west east north sweep next → Kept sweep → Kept next)
    (steps : Nat) : Kept (after index west south east north steps) := by
  unfold after
  induction steps with
  | zero => exact first
  | succ steps ih =>
    rw [Function.iterate_succ_apply']
    exact kept (moves_step _) ih

/-- A sweep that is over stays so: there is one end. -/
theorem ended_unique {outcome outcome' : Except Failure (List Finding)} {tested tested' steps steps' : Nat}
    (ended : after index west south east north steps = .ended outcome tested)
    (ended' : after index west south east north steps' = .ended outcome' tested') : outcome = outcome' := by
  have later {outcome : Except Failure (List Finding)} {tested steps : Nat} (more : Nat)
      (ended : after index west south east north steps = .ended outcome tested) :
      after index west south east north (more + steps) = .ended outcome tested := by
    rw [after, Function.iterate_add_apply, ← after, ended]
    exact Function.iterate_fixed rfl more
  have same := (later steps' ended).symm.trans (Nat.add_comm steps' steps ▸ later steps ended')
  cases same
  rfl

theorem start_cases (west south east north : α) :
    (∃ failure, start west south east north = .ended (.error failure) 0 ∧ failure ≠ .endlessBox) ∨
      ∃ lat, start west south east north = .row lat [] 0 ∧ Scalar.floor south = .ok lat ∧
        Scalar.le east west = false ∧ Scalar.le north south = false := by
  simp only [start, edges]
  split_ifs with columns rows
  · exact Or.inl ⟨_, rfl, by simp⟩
  · exact Or.inl ⟨_, rfl, by simp⟩
  · cases floored : Scalar.floor south with
    | error reason => exact Or.inl ⟨_, rfl, by simp⟩
    | ok lat => exact Or.inr ⟨lat, rfl, rfl, by simpa using columns, by simpa using rows⟩

/-- What a sweep can end with: a survey that has no end is not among it. -/
def IsRegular : Sweep → Prop
  | .ended outcome _ => outcome ≠ .error .endlessBox
  | _ => True

theorem find_ne_endlessBox {cell : Cell} {failure : Failure} (failed : find index cell = .error failure) :
    failure ≠ .endlessBox := by
  have refused := map_eq_error.mp failed
  unfold Place.validate at refused
  split_ifs at refused <;> cases refused <;> simp

theorem Moves.isRegular (moves : Moves index west east north sweep next) (kept : IsRegular sweep) :
    IsRegular next := by
  cases moves with
  | finish | unplaced => simp [IsRegular]
  | enter | leave | tell => trivial
  | refuse begun failed => simpa [IsRegular] using find_ne_endlessBox failed
  | stay => exact kept

theorem isRegular_after (index : Elevation.Coverage.Index) (west south east north : α) (steps : Nat) :
    IsRegular (after index west south east north steps) := by
  refine after_induction ?_ Moves.isRegular steps
  rcases start_cases west south east north with ⟨failure, ended, regular⟩ | ⟨lat, begun, -⟩
  · rw [ended]
    simpa [IsRegular] using regular
  · rw [begun]
    trivial

/-! ### Tests -/

/-- The cells of a row from column `lon` on that are on the globe. -/
def columnsLeft (lat lon : Int) : Nat := if -90 ≤ lat ∧ lat ≤ 90 then min 361 (181 - lon).toNat else 0

def rowsLeft (lat : Int) : Nat := min 181 (91 - lat).toNat

/-- How many cells may still be tested: all that are on the globe, and one that is not. -/
def testsLeft : Sweep → Nat
  | .row lat _ _ => 361 * rowsLeft lat + 1
  | .cell lat lon _ _ => columnsLeft lat lon + 361 * rowsLeft (lat + 1) + 1
  | .ended _ _ => 0

def IsBounded (sweep : Sweep) : Prop := sweep.tested + sweep.testsLeft ≤ 181 * 361 + 1

theorem Moves.tested_le (moves : Moves index west east north sweep next) :
    next.tested + next.testsLeft ≤ sweep.tested + sweep.testsLeft := by
  cases moves with
  | finish | unplaced => exact Nat.add_le_add_left (Nat.zero_le _) _
  | enter =>
    simp only [tested, testsLeft, columnsLeft, rowsLeft]
    split_ifs <;> omega
  | leave | refuse =>
    simp only [tested, testsLeft]
    omega
  | tell begun told rows columns =>
    simp only [tested, testsLeft, columnsLeft, if_pos rows]
    omega
  | stay => exact le_rfl

theorem isBounded_after (index : Elevation.Coverage.Index) (west south east north : α) (steps : Nat) :
    IsBounded (after index west south east north steps) := by
  refine after_induction ?_ (fun moves bounded => moves.tested_le.trans bounded) steps
  rcases start_cases west south east north with ⟨failure, ended, -⟩ | ⟨lat, begun, -⟩
  · rw [ended]
    exact Nat.zero_le _
  · rw [begun]
    simp only [tested, testsLeft, rowsLeft]
    omega

theorem tested_after_le (index : Elevation.Coverage.Index) (west south east north : α) (steps : Nat) :
    (after index west south east north steps).tested ≤ 181 * 361 + 1 :=
  (Nat.le_add_right _ _).trans (isBounded_after index west south east north steps)

/-! ### Boxes without columns -/

theorem iterate_two_of_past {found : List Finding} {tested : Nat} (begun : exceeds north lat = true)
    (floored : Scalar.floor west = .ok lon) (past : exceeds east lon = false) :
    (step index west east north)^[2] (.row lat found tested) = .row (lat + 1) found tested := by
  simp [step, begun, floored, past]

theorem ended_of_past {top : Int} (below : ∀ lat, exceeds north lat = true → lat ≤ top)
    (floored : Scalar.floor west = .ok lon) (past : exceeds east lon = false) (rows : Nat) (lat : Int)
    (few : (top + 1 - lat).toNat ≤ rows) :
    (step index west east north)^[2 * rows + 1] (.row lat [] 0) = .ended (.ok []) 0 := by
  cases begun : exceeds north lat with
  | false =>
    have finished : step index west east north (.row lat [] 0) = .ended (.ok []) 0 := by simp [step, begun]
    rw [Function.iterate_succ_apply, finished]
    exact Function.iterate_fixed rfl _
  | true =>
    have low := below lat begun
    cases rows with
    | zero => omega
    | succ rows =>
      rw [show 2 * (rows + 1) + 1 = 2 * rows + 1 + 2 by ring, Function.iterate_add_apply,
        iterate_two_of_past begun floored past]
      exact ended_of_past below floored past rows (lat + 1) (by omega)

def Onward (first : Int) : Sweep → Prop
  | .row _ _ _ => True
  | .cell _ lon _ _ => lon = first
  | .ended _ _ => False

theorem Moves.onward (moves : Moves index west east north sweep next)
    (endless : ∀ lat, exceeds north lat = true) (floored : Scalar.floor west = .ok lon)
    (past : exceeds east lon = false) (kept : Onward lon sweep) : Onward lon next := by
  cases moves with
  | finish past => cases past.symm.trans (endless _)
  | unplaced begun failed => cases failed.symm.trans floored
  | enter begun floored' => exact Except.ok.inj (floored'.symm.trans floored)
  | leave => trivial
  | refuse begun | tell begun =>
    cases kept
    cases past.symm.trans begun
  | stay => exact kept

/-! ### Boxes with columns -/

/-- If the western edge has a floor, there is a column from there to the eastern edge. -/
def HasColumns (west east : α) : Prop := ∀ first, Scalar.floor west = .ok first → exceeds east first = true

/-- How many more steps may be taken, two more than cells in each row. -/
def stepsLeft : Sweep → Nat
  | .row lat _ _ => 363 * rowsLeft lat + 2
  | .cell lat lon _ _ =>
    if -90 ≤ lat ∧ lat ≤ 90 then columnsLeft lat lon + 363 * rowsLeft (lat + 1) + 3 else 1
  | .ended _ _ => 0

/-- What the rest of a sweep comes to. -/
def comesTo (index : Elevation.Coverage.Index) (west east north : α) : Sweep → Except Failure (List Finding)
  | .row lat found _ => (surveyRows index west east north lat).map (found ++ ·)
  | .cell lat lon found _ =>
    match surveyRow index east lat lon with
    | .error failure => .error failure
    | .ok told => (surveyRows index west east north (lat + 1)).map ((found ++ told) ++ ·)
  | .ended outcome _ => outcome

theorem checkCoverage_eq_comesTo (index : Elevation.Coverage.Index) (west south east north : α) :
    checkCoverage index [west, south, east, north] =
      (comesTo index west east north (start west south east north)).map .ofFindings := by
  simp only [checkCoverage, start]
  cases accepted : edges [west, south, east, north] with
  | error failure => rfl
  | ok found =>
    obtain ⟨west, south, east, north⟩ := found
    obtain ⟨same, -, -⟩ := edges_ok accepted
    cases same
    simp only [surveyEdges]
    cases Scalar.floor south with
    | error reason => rfl
    | ok lat => cases told : surveyRows index west east north lat <;> simp [comesTo, told, Except.map]

theorem not_lt_of_surveyRow {row : List Finding} (begun : Scalar.lt (Scalar.ofInt lon) east = true)
    (surveyed : surveyRow index east lat lon = .ok row) : ¬ 90 < lat := by
  rw [surveyRow, if_pos begun] at surveyed
  cases told : find index ⟨lat, lon⟩ with
  | error failure =>
    rw [told] at surveyed
    cases surveyed
  | ok finding => exact not_lt.mpr (find_ok told).1.1.2

end Sweep

end

section

open Decimal

variable {index : Elevation.Coverage.Index} {west south east north : Float} {lat lon : Int}

theorem exceeds_eq_lt {x : Float} {n : Int} (exact : IsExact n) :
    exceeds x n = Scalar.lt (Scalar.ofInt n) x := by
  rw [Bool.eq_iff_iff, lt_eq_true, exceeds]
  cases floored : Scalar.floor x with
  | ok m =>
    simp only [Bool.or_eq_true, decide_eq_true_eq, Bool.and_eq_true, lt_eq_true]
    exact (ofInt_lt_iff exact floored).symm
  | error reason =>
    cases reason with
    | nan => exact iff_of_false Bool.false_ne_true (not_lt_of_isNaN (floor_eq_nan_iff.mp floored))
    | infinite => exact lt_eq_true.trans (lt_isInf_iff isExact_zero exact (floor_eq_infinite_iff.mp floored))

namespace Sweep

variable {sweep next : Sweep}

/-- The whole numbers that are compared are doubles, and a cell off the globe is tested. -/
def OnTrack (east : Float) : Sweep → Prop
  | .row lat _ _ => IsExact lat
  | .cell lat lon _ _ => IsExact lon ∧ ((-90 ≤ lat ∧ lat ≤ 90) ∨ exceeds east lon = true)
  | .ended _ _ => True

theorem Moves.onTrack (moves : Moves index west east north sweep next) (columns : HasColumns west east)
    (kept : OnTrack east sweep) : OnTrack east next := by
  cases moves with
  | finish | unplaced | refuse | stay => trivial
  | enter begun floored => exact ⟨isExact_floor floored, Or.inr (columns _ floored)⟩
  | leave past =>
    rcases kept.2 with rows | begun
    · exact isExact_of_natAbs_le (by omega)
    · cases past.symm.trans begun
  | tell begun told rows columns => exact ⟨isExact_of_natAbs_le (by omega), Or.inl rows⟩

theorem Moves.stepsLeft_le (moves : Moves index west east north sweep next) (kept : OnTrack east sweep) :
    next.stepsLeft ≤ sweep.stepsLeft - 1 := by
  cases moves with
  | finish | unplaced | refuse | stay => exact Nat.zero_le _
  | enter =>
    simp only [stepsLeft, columnsLeft, rowsLeft]
    split_ifs <;> omega
  | leave past =>
    rcases kept.2 with rows | begun
    · simp only [stepsLeft, if_pos rows]
      omega
    · cases past.symm.trans begun
  | tell begun told rows columns =>
    simp only [stepsLeft, columnsLeft, if_pos rows]
    omega

/-- What is found is what a survey finds. -/
theorem Moves.comesTo_eq (moves : Moves index west east north sweep next) (columns : HasColumns west east)
    (kept : OnTrack east sweep) : comesTo index west east north next = comesTo index west east north sweep := by
  cases moves with
  | finish past =>
    rw [exceeds_eq_lt kept] at past
    simp [comesTo, surveyRows, past, Except.map]
  | unplaced begun floored =>
    rw [exceeds_eq_lt kept] at begun
    simp [comesTo, surveyRows, begun, floored, Except.map]
  | @enter lat lon found tested begun floored =>
    have inside := columns _ floored
    rw [exceeds_eq_lt (isExact_floor floored)] at inside
    rw [exceeds_eq_lt kept] at begun
    rw [comesTo, comesTo, surveyRows.eq_def index west east north lat]
    cases told : surveyRow index east lat lon with
    | error failure => simp [begun, floored, inside, told, Except.map]
    | ok row =>
      -- The survey refuses a row beyond the pole, but not before its first cell has refused it.
      simp only [begun, floored, inside, told, if_true, if_neg (not_lt_of_surveyRow inside told)]
      cases surveyRows index west east north (lat + 1) <;> simp [Except.map]
  | leave past =>
    rw [exceeds_eq_lt kept.1] at past
    simp [comesTo, surveyRow, past]
  | refuse begun failed =>
    rw [exceeds_eq_lt kept.1] at begun
    simp [comesTo, surveyRow, begun, failed]
  | @tell lat lon found tested finding begun told rows columns =>
    rw [exceeds_eq_lt kept.1] at begun
    rw [comesTo, comesTo, surveyRow.eq_def index east lat lon]
    simp only [begun, told, if_true, if_neg (not_lt.mpr columns.2)]
    cases surveyRow index east lat (lon + 1) <;> simp [Except.map]
  | stay => rfl

/-- In a box with columns a sweep ends, with what a survey finds. -/
theorem exists_ended_of_hasColumns (columns : HasColumns west east) (steps : Nat) (sweep : Sweep)
    (kept : OnTrack east sweep) (few : sweep.stepsLeft ≤ steps) :
    ∃ tested, (step index west east north)^[steps] sweep =
      .ended (comesTo index west east north sweep) tested := by
  induction steps generalizing sweep with
  | zero =>
    cases sweep with
    | row lat found tested => exact absurd few (by simp [stepsLeft])
    | cell lat lon found tested =>
      simp only [stepsLeft] at few
      split_ifs at few <;> omega
    | ended outcome tested => exact ⟨tested, rfl⟩
  | succ steps ih =>
    have moves : Moves index west east north sweep _ := moves_step sweep
    rw [Function.iterate_succ_apply, ← moves.comesTo_eq columns kept]
    exact ih _ (moves.onTrack columns kept) (by have := moves.stepsLeft_le kept; omega)

end Sweep

/-! ### Boxes of doubles -/

/-- Without a number in the east, a box from somewhere to the infinite north has no end. -/
structure Endless (west south east north : Float) : Prop where
  west : west.isFinite = true
  south : south.isFinite = true
  east : east.isNaN = true
  north : north.isInf = true ∧ 0 < north

theorem hasColumns_of_le (accepted : Scalar.le east west = false) (number : east.isNaN = false) :
    Sweep.HasColumns west east := by
  intro first floored
  rw [exceeds_eq_lt (isExact_floor floored)]
  exact lt_of_floor floored (lt_of_le_eq_false floored number accepted)

theorem exceeds_eq_false_of_isNaN (none : east.isNaN = true) (n : Int) : exceeds east n = false := by
  rw [exceeds, floor_eq_nan_iff.mpr none]

theorem exceeds_of_isInf (infinite : north.isInf = true) (n : Int) :
    exceeds north n = true ↔ 0 < north := by
  rw [exceeds, floor_eq_infinite_iff.mpr infinite]
  exact lt_eq_true

theorem exists_bound (finite : ¬ (north.isInf = true ∧ 0 < north)) :
    ∃ top, ∀ lat, exceeds north lat = true → lat ≤ top := by
  cases floored : Scalar.floor north with
  | ok m =>
    refine ⟨m, fun lat begun => ?_⟩
    simp only [exceeds, floored, Bool.or_eq_true, decide_eq_true_eq, Bool.and_eq_true] at begun
    omega
  | error reason =>
    refine ⟨0, fun lat begun => ?_⟩
    cases reason with
    | nan => cases begun.symm.trans (exceeds_eq_false_of_isNaN (floor_eq_nan_iff.mp floored) lat)
    | infinite =>
      have infinite := floor_eq_infinite_iff.mp floored
      exact absurd ⟨infinite, (exceeds_of_isInf infinite lat).mp begun⟩ finite

theorem surveyRows_of_past {top first : Int} (exact : IsExact lat)
    (below : ∀ lat, exceeds north lat = true → lat ≤ top) (floored : Scalar.floor west = .ok first)
    (past : exceeds east first = false) : surveyRows index west east north lat = .ok [] := by
  rw [exceeds_eq_lt (isExact_floor floored)] at past
  rw [surveyRows]
  by_cases begun : Scalar.lt (Scalar.ofInt lat) north = true
  · simp only [begun, floored, past, Bool.false_eq_true, if_true, if_false]
    rw [← exceeds_eq_lt exact] at begun
    cases ended : Scalar.floor north with
    | ok m => rfl
    | error reason =>
      cases reason with
      | nan => cases begun.symm.trans (exceeds_eq_false_of_isNaN (floor_eq_nan_iff.mp ended) lat)
      | infinite =>
        have infinite := floor_eq_infinite_iff.mp ended
        have onward := (exceeds_of_isInf infinite lat).mp begun
        have beyond := below (top + 1) ((exceeds_of_isInf infinite _).mpr onward)
        omega
  · exact if_neg begun

/-- In an endless box a sweep begins with rows that have no columns and do not end. -/
theorem Endless.start_eq (endless : Endless west south east north) :
    ∃ lat first, Sweep.start west south east north = .row lat [] 0 ∧ Scalar.floor south = .ok lat ∧
      Scalar.floor west = .ok first ∧ exceeds east first = false ∧ ∀ n, exceeds north n = true := by
  obtain ⟨left, low, none, infinite, positive⟩ := endless
  obtain ⟨first, leftmost⟩ := exists_floor_iff.mpr left
  obtain ⟨lat, lowest⟩ := exists_floor_iff.mpr low
  obtain ⟨u, grains, -⟩ := exists_grains_of_floor lowest
  have columns : Scalar.le east west = false := le_eq_false.mpr (not_le_of_isNaN none)
  have rows : Scalar.le north south = false :=
    le_eq_false.mpr (not_le_of_lt ((lt_isInf_iff isExact_zero grains infinite).mp positive))
  refine ⟨lat, first, ?_, lowest, leftmost, exceeds_eq_false_of_isNaN none first,
    fun n => (exceeds_of_isInf infinite n).mpr positive⟩
  simp [Sweep.start, edges, columns, rows, lowest]

theorem Endless.not_ended (endless : Endless west south east north) (steps : Nat)
    (outcome : Except Failure (List Finding)) (tested : Nat) :
    Sweep.after index west south east north steps ≠ .ended outcome tested := by
  obtain ⟨lat, first, begun, -, leftmost, past, onward⟩ := endless.start_eq
  have kept : Sweep.Onward first (Sweep.after index west south east north steps) :=
    Sweep.after_induction (begun ▸ trivial) (fun moves => moves.onward onward leftmost past) steps
  intro ended
  rw [ended] at kept
  exact kept

theorem Endless.checkCoverage_eq (endless : Endless west south east north) :
    checkCoverage index [west, south, east, north] = .error .endlessBox := by
  obtain ⟨lat, first, begun, lowest, leftmost, past, onward⟩ := endless.start_eq
  have rows := onward lat
  rw [exceeds_eq_lt (isExact_floor lowest)] at rows
  rw [exceeds_eq_lt (isExact_floor leftmost)] at past
  have survey : surveyRows index west east north lat = .error .endlessBox := by
    simp [surveyRows, rows, leftmost, past, floor_eq_infinite_iff.mpr endless.north.1]
  rw [Sweep.checkCoverage_eq_comesTo, begun, Sweep.comesTo, survey]
  rfl

/-- Any other sweep ends, with what is found in the box. -/
theorem exists_ended (index : Elevation.Coverage.Index) (finite : ¬ Endless west south east north) :
    ∃ steps tested, Sweep.after index west south east north steps =
      .ended (Sweep.comesTo index west east north (Sweep.start west south east north)) tested := by
  rcases Sweep.start_cases west south east north with
    ⟨failure, ended, -⟩ | ⟨lat, begun, lowest, columns, rows⟩
  · exact ⟨0, 0, ended.trans (by rw [ended, Sweep.comesTo])⟩
  · unfold Sweep.after
    rw [begun]
    have exact := isExact_floor lowest
    by_cases some : Sweep.HasColumns west east
    · exact ⟨_, Sweep.exists_ended_of_hasColumns some _ (.row lat [] 0) exact le_rfl⟩
    · have none : east.isNaN = true := by
        by_contra number
        exact some (hasColumns_of_le columns (by simpa using number))
      simp only [Sweep.HasColumns, not_forall] at some
      obtain ⟨first, leftmost, past⟩ := some
      -- No cell will be tested, so the globe does not bound the sweep, but the northern edge does.
      have past : exceeds east first = false := by simpa using past
      obtain ⟨top, below⟩ := exists_bound fun onward => finite
        ⟨exists_floor_iff.mp ⟨_, leftmost⟩, exists_floor_iff.mp ⟨_, lowest⟩, none, onward⟩
      refine ⟨_, 0, (Sweep.ended_of_past below leftmost past _ lat le_rfl).trans ?_⟩
      rw [Sweep.comesTo, surveyRows_of_past exact below leftmost past]
      rfl

/-- To a number in the east, a sweep ends after no more steps than the cells on the globe and two for
each row. -/
theorem exists_ended_of_number (index : Elevation.Coverage.Index) (number : east.isNaN = false) :
    ∃ outcome tested, Sweep.after index west south east north (181 * 363 + 2) = .ended outcome tested := by
  unfold Sweep.after
  rcases Sweep.start_cases west south east north with
    ⟨failure, ended, -⟩ | ⟨lat, begun, lowest, columns, rows⟩
  · rw [ended]
    exact ⟨_, _, Function.iterate_fixed rfl _⟩
  · rw [begun]
    have few : (Sweep.row lat [] 0).stepsLeft ≤ 181 * 363 + 2 := by
      simp only [Sweep.stepsLeft, Sweep.rowsLeft]
      omega
    exact ⟨_, Sweep.exists_ended_of_hasColumns (hasColumns_of_le columns number) _ (.row lat [] 0)
      (isExact_floor lowest) few⟩

/-- A sweep never tests more cells than there are on the globe and one, and what it ends with is
reported. It ends for all boxes but those without a number in the east that go from somewhere to the
infinite north; if there is a number in the east, it does so within a fixed number of steps. -/
theorem checkCoverage_ends (index : Elevation.Coverage.Index) (west south east north : Float) :
    (∀ steps, (Sweep.after index west south east north steps).tested ≤ 181 * 361 + 1) ∧
    (∀ steps outcome tested, Sweep.after index west south east north steps = .ended outcome tested →
      checkCoverage index [west, south, east, north] = outcome.map .ofFindings) ∧
    ((∃ steps outcome tested, Sweep.after index west south east north steps = .ended outcome tested) ↔
      ¬ Endless west south east north) ∧
    (checkCoverage index [west, south, east, north] = .error .endlessBox ↔
      Endless west south east north) ∧
    (east.isNaN = false → ∃ outcome tested,
      Sweep.after index west south east north (181 * 363 + 2) = .ended outcome tested) := by
  refine ⟨Sweep.tested_after_le index west south east north, ?_, ⟨?_, ?_⟩, ⟨?_, ?_⟩,
    exists_ended_of_number index⟩
  · intro steps outcome tested ended
    obtain ⟨steps', tested', ended'⟩ := exists_ended index fun endless => endless.not_ended _ _ _ ended
    rw [Sweep.checkCoverage_eq_comesTo, Sweep.ended_unique ended ended']
  · rintro ⟨steps, outcome, tested, ended⟩ endless
    exact endless.not_ended steps outcome tested ended
  · intro finite
    obtain ⟨steps, tested, ended⟩ := exists_ended index finite
    exact ⟨steps, _, tested, ended⟩
  · intro refused
    by_contra finite
    obtain ⟨steps, tested, ended⟩ := exists_ended index finite
    have regular := Sweep.isRegular_after index west south east north steps
    rw [ended] at regular
    rw [Sweep.checkCoverage_eq_comesTo] at refused
    exact regular (map_eq_error.mp refused)
  · exact fun endless => endless.checkCoverage_eq

/-- The sweep of a box of one cell. -/
theorem checkCoverage_ends_cell : (5 : Float).isNaN = false ∧ ¬ Endless 4 52 5 53 ∧
    ∃ outcome tested, Sweep.after .empty (4 : Float) 52 5 53 (181 * 363 + 2) = .ended outcome tested ∧
      checkCoverage .empty [(4 : Float), 52, 5, 53] = outcome.map .ofFindings ∧ tested ≤ 181 * 361 + 1 := by
  have number : (5 : Float).isNaN = false := by decide +kernel
  obtain ⟨bounded, reports, ends, -, soon⟩ := checkCoverage_ends .empty 4 52 5 53
  obtain ⟨outcome, tested, ended⟩ := soon number
  refine ⟨number, ends.mp ⟨_, _, _, ended⟩, outcome, tested, ended, reports _ _ _ ended, ?_⟩
  have few := bounded (181 * 363 + 2)
  rwa [ended] at few

/-- The sweep of the box from the middle of the grid to no number in the east and to the infinite
north. -/
theorem not_exists_ended : ¬ ∃ steps outcome tested,
    Sweep.after .empty (0 : Float) 0 (0 / 0) (1 / 0) steps = .ended outcome tested := by
  have endless : Endless 0 0 (0 / 0) (1 / 0) :=
    ⟨by decide +kernel, by decide +kernel, by decide +kernel, by decide +kernel, by decide +kernel⟩
  rintro ⟨steps, outcome, tested, ended⟩
  exact endless.not_ended steps outcome tested ended

end

end Elevation.Report
