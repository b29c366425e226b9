import Elevation.Report.Coverage

/-!
The survey of a box in single steps.

A sweep goes through the box row by row, one step for the head of each row and one for each cell. It
compares whole numbers with the edges of the box as they are, and ends where the survey does.
-/
namespace Elevation.Report

section

variable {α : Type} [Scalar α]

/-- Whether a number is greater than an integer, even one that is no number of its kind. -/
def exceeds (x : α) (n : Int) : Bool :=
  match Scalar.floor x with
  | .ok m => n < m || (n = m && Scalar.lt (Scalar.ofInt m) x)
  | .error .infinite => Scalar.lt (Scalar.ofInt 0) x
  | .error .nan => false

/-- Where a sweep stands: at the head of a row, before a cell or at its end. The cells that have been
tested are counted along with what was found. -/
inductive Sweep where
  | row (lat : Int) (found : List Finding) (tested : Nat)
  | cell (lat lon : Int) (found : List Finding) (tested : Nat)
  | ended (outcome : Except Failure (List Finding)) (tested : Nat)

namespace Sweep

def tested : Sweep → Nat
  | .row _ _ tested => tested
  | .cell _ _ _ tested => tested
  | .ended _ tested => tested

def step (index : Elevation.Coverage.Index) (west east north : α) : Sweep → Sweep
  | .row lat found tested =>
    if exceeds north lat then
      match Scalar.floor west with
      | .error reason => .ended (.error (.noInteger reason)) tested
      | .ok lon => .cell lat lon found tested
    else .ended (.ok found) tested
  | .cell lat lon found tested =>
    if exceeds east lon then
      match find index ⟨lat, lon⟩ with
      | .error failure => .ended (.error failure) (tested + 1)
      | .ok finding => .cell lat (lon + 1) (found ++ [finding]) (tested + 1)
    else .row (lat + 1) found tested
  | .ended outcome tested => .ended outcome tested

def start (west south east north : α) : Sweep :=
  match edges [west, south, east, north] with
  | .error failure => .ended (.error failure) 0
  | .ok _ =>
    match Scalar.floor south with
    | .error reason => .ended (.error (.noInteger reason)) 0
    | .ok lat => .row lat [] 0

end Sweep

end

end Elevation.Report
