import Elevation.Failure

/-!
The one-degree grid.

A place lies in the cell whose south-west corner is its floored coordinate. Flooring snaps: a
negative coordinate less than `snap` below an integer counts as that integer. Each cell has a
number, its key, and a name such as `N52E004`.
-/
namespace Elevation

/-- A one-degree cell, by its south-west corner in whole degrees. -/
structure Cell where
  lat : Int
  lon : Int
  deriving DecidableEq, Repr

namespace Cell

def key (cell : Cell) : Int := (cell.lat + 90) * 1000 + (cell.lon + 180)

def degrees (places : Nat) (n : Int) : List Char := Decimal.padded places n.natAbs

def nameChars (cell : Cell) : List Char :=
  (if 0 ≤ cell.lat then 'N' else 'S') :: degrees 2 cell.lat
    ++ (if 0 ≤ cell.lon then 'E' else 'W') :: degrees 3 cell.lon

def name (cell : Cell) : String := String.ofList cell.nameChars

end Cell

structure Place (α : Type) where
  lat : α
  lon : α
  deriving DecidableEq, Repr

variable {α : Type} [Scalar α]

/-- How far below a negative integer a coordinate still counts as that integer. -/
def snap : α := Scalar.ratio 1 100000

/-- Whether a coordinate lies below the integer that it is cut to, by the snap or more. -/
def isBelow (near : Int) (x : α) : Bool :=
  let gap := Scalar.ofInt near - x
  Scalar.lt (Scalar.ofInt 0) gap && Scalar.le snap gap

def snappedFloor (x : α) : Except NoInteger Int :=
  match Scalar.truncate x with
  | .error reason => .error reason
  | .ok near => .ok (if isBelow near x then near - 1 else near)

def coordinateFloor (x : α) : Except Failure Int := (snappedFloor x).mapError .noInteger

namespace Place

def cell (place : Place α) : Except Failure Cell :=
  match coordinateFloor place.lat with
  | .error failure => .error failure
  | .ok lat =>
    match coordinateFloor place.lon with
    | .error failure => .error failure
    | .ok lon => .ok ⟨lat, lon⟩

def key (place : Place α) : Except Failure Int := place.cell.map Cell.key

def name (place : Place α) : Except Failure String := place.cell.map Cell.name

def inRange (low high : Int) (x : α) : Bool :=
  Scalar.le (Scalar.ofInt low) x && Scalar.le x (Scalar.ofInt high)

/-- Whether a place lies on the globe; the latitude is looked at first. -/
def validate (place : Place α) : Except Failure Unit :=
  if !inRange (-90) 90 place.lat then .error (.latitudeOutside (Scalar.text place.lat))
  else if !inRange (-180) 180 place.lon then .error (.longitudeOutside (Scalar.text place.lon))
  else .ok ()

end Place

end Elevation
