import Elevation.Tile.Georeference
import Elevation.Tile.Picture

/-!
Shaded relief.

The slope of the ground is taken from the eight neighbours of a node by Horn's differences, the
nodes at the border standing in for those beyond it. A node without height counts as sea level.
The brightness follows from the angle between the slope and the light and runs from 0 to 255.
-/
namespace Elevation

class Trigonometry (α : Type) extends Scalar α where
  sqrt : α → α
  arctan : α → α
  /-- The angle of the point whose second coordinate is the first argument. -/
  arctan2 : α → α → α
  sin : α → α
  cos : α → α
  radians : α → α

instance : Trigonometry Float where
  sqrt := Float.sqrt
  arctan := Float.atan
  arctan2 := Float.atan2
  sin := Float.sin
  cos := Float.cos
  radians := Tile.radians

/-- Heights by row and column; nothing stands where there is no height. -/
structure Relief (α : Type) where
  rows : Nat
  columns : Nat
  height? : Nat → Nat → Option α

structure Light (α : Type) where
  azimuth : α
  altitude : α
  exaggeration : α

namespace Relief

variable {α : Type} [Trigonometry α]

/-- Light from the north-west, half-way up. -/
def usualLight : Light α := ⟨Scalar.ofInt 315, Scalar.ofInt 45, Scalar.ofInt 1⟩

/-- The height one step before, at, or one step behind a node of the border-extended relief;
`row` and `column` are counted from the border outside. -/
def padded (relief : Relief α) (row column : Nat) : α :=
  (relief.height? (min (row - 1) (relief.rows - 1)) (min (column - 1) (relief.columns - 1))).getD
    (Scalar.ofInt 0)

/-- The sum of three neighbours, the middle one counted twice. -/
def weighted (a b c : α) : α := a + Scalar.ofInt 2 * b + c

def slopeEast (relief : Relief α) (cellWidth : α) (row column : Nat) : α :=
  let at_ := relief.padded
  (weighted (at_ row (column + 2)) (at_ (row + 1) (column + 2)) (at_ (row + 2) (column + 2))
    - weighted (at_ row column) (at_ (row + 1) column) (at_ (row + 2) column))
      / (Scalar.ofInt 8 * cellWidth)

def slopeNorth (relief : Relief α) (cellHeight : α) (row column : Nat) : α :=
  let at_ := relief.padded
  (weighted (at_ row column) (at_ row (column + 1)) (at_ row (column + 2))
    - weighted (at_ (row + 2) column) (at_ (row + 2) (column + 1)) (at_ (row + 2) (column + 2)))
      / (Scalar.ofInt 8 * cellHeight)

def brightness (light : Light α) (east north : α) : α :=
  let direction := Trigonometry.radians (Scalar.ofInt 360 - light.azimuth + Scalar.ofInt 90)
  let altitude := Trigonometry.radians light.altitude
  let slope := Trigonometry.arctan (Trigonometry.sqrt (east * east + north * north))
  let aspect := Trigonometry.arctan2 (Scalar.ofInt 0 - north) east
  Scalar.clamp (Scalar.ofInt 0) (Scalar.ofInt 255) (Scalar.ofInt 255
    * (Trigonometry.cos altitude * Trigonometry.cos slope
      + Trigonometry.sin altitude * Trigonometry.sin slope
        * Trigonometry.cos (direction - aspect)))

def shadeAt (relief : Relief α) (cellWidth cellHeight : α) (light : Light α)
    (row column : Nat) : α :=
  brightness light (relief.slopeEast cellWidth row column * light.exaggeration)
    (relief.slopeNorth cellHeight row column * light.exaggeration)

/-- A relief without rows or without columns has no border to extend. -/
def nonempty (relief : Relief α) : Except Failure Unit :=
  if relief.rows = 0 then .error (.emptyAxis 0)
  else if relief.columns = 0 then .error (.emptyAxis 1)
  else .ok ()

/-- Light has to come from somewhere: an infinite altitude is no angle. -/
def validLight (light : Light α) : Except Failure Unit :=
  match Scalar.floor light.altitude with
  | .error .infinite => .error .angleDomain
  | _ => .ok ()

def shade (relief : Relief α) (cellWidth cellHeight : α) (light : Light α) :
    Except Failure (List (List α)) :=
  match relief.nonempty, validLight light with
  | .error failure, _ | _, .error failure => .error failure
  | .ok (), .ok () =>
    .ok ((List.range relief.rows).map fun row =>
      (List.range relief.columns).map fun column =>
        relief.shadeAt cellWidth cellHeight light row column)

/-! ### Reliefs from rows of doubles -/

def greatestHeight : Float := 1.7976931348623157e308

/-- The height that a double stands for: none if it is no number, the greatest one if it is
infinite. -/
def heightOf? (x : Float) : Option Float :=
  if x.isNaN then none else some (Scalar.clamp (-greatestHeight) greatestHeight x)

def ofRows (rows : List (List Float)) : Except Failure (Relief Float) :=
  let columns := (rows.headD []).length
  if rows.any fun row => row.length ≠ columns then .error (.raggedShape [rows.length])
  else
    let heights := (rows.map List.toArray).toArray
    .ok
      { rows := rows.length
        columns := columns
        height? := fun row column => (heights[row]?.bind fun row => row[column]?).bind heightOf? }

end Relief

namespace Tile

def relief (tile : Tile) : Relief Float where
  rows := tile.width
  columns := tile.width
  height? row column :=
    let sample := tile.sampleAt (row : Nat) (column : Nat)
    if sample = voidHeight then none else some (Float.ofInt sample)

/-- The grey of a node: its brightness cut to a whole number, or black where there is no height. -/
def greyAt (tile : Tile) (cellWidth cellHeight : Float) (row column : Nat) : Int :=
  if tile.sampleAt (row : Nat) (column : Nat) = voidHeight then 0
  else
    match Scalar.truncate
        (tile.relief.shadeAt cellWidth cellHeight Relief.usualLight row column) with
    | .ok grey => grey
    | .error _ => 0

def hillshade (tile : Tile) : Except Failure Picture :=
  match tile.cellSize with
  | .error failure => .error failure
  | .ok (cellWidth, cellHeight) =>
    tile.relief.nonempty.map fun () =>
      .grey tile.width tile.width (tile.greyAt cellWidth cellHeight)

end Tile

end Elevation
