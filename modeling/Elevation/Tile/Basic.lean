import Elevation.Grid
import Elevation.Tile.Samples

/-!
A decoded tile and the look-up of its nearest sample.

Rows run from north to south and columns from west to east; the outermost rows and columns lie on
the edges of the cell, which neighbouring tiles share. A coordinate is served by the node nearest
to it, a tie going to the even row or column.
-/
namespace Elevation

/-- A tile of `width` by `width` samples, row by row. -/
structure Tile where
  cell : Cell
  width : Nat
  samples : Array Int
  size_eq : samples.size = width * width
  deriving DecidableEq

/-- Samples as they are handed over: a lone number or a list of further samples. -/
inductive Nested where
  | sample (value : Int)
  | list (items : List Nested)

namespace Nested

mutual

def flatten : Nested → List Int
  | sample value => [value]
  | list items => flattenAll items

def flattenAll : List Nested → List Int
  | [] => []
  | item :: items => item.flatten ++ flattenAll items

end

/-- The sizes on which all items of a list agree, outermost first, and whether they agree in full.
A disagreement hides the sizes below it. -/
def commonShape : List (List Nat × Bool) → List Nat × Bool
  | [] => ([], true)
  | [shape] => shape
  | (shape, whole) :: rest =>
    let (other, otherWhole) := commonShape rest
    let agreed := (shape.zip other).takeWhile fun (a, b) => a = b
    (agreed.map Prod.fst,
      whole && otherWhole && agreed.length = shape.length && agreed.length = other.length)

mutual

def shape : Nested → List Nat × Bool
  | sample _ => ([], true)
  | list items =>
    let (inner, whole) := commonShape (shapes items)
    (items.length :: inner, whole)

def shapes : List Nested → List (List Nat × Bool)
  | [] => []
  | item :: items => item.shape :: shapes items

end

end Nested

namespace Tile

def inSampleRange (value : Int) : Bool := -32768 ≤ value && value ≤ 32767

def sampleFailure (value : Int) : Failure :=
  if -0x8000000000000000 ≤ value ∧ value < 0x8000000000000000 then .sampleRange value
  else .sampleTooLarge

def ofSamples? (cell : Cell) (width : Nat) (samples : Array Int) : Option Tile :=
  if fits : samples.size = width * width then some ⟨cell, width, samples, fits⟩ else none

/-- The tile of as many samples as a width asks for. No tile has a negative width. -/
def ofSamples (cell : Cell) (width : Int) (samples : Array Int) : Except Failure Tile :=
  if width < 0 then .error .unknownSizes
  else
    match ofSamples? cell width.toNat samples with
    | some tile => .ok tile
    | none => .error (.wrongShape width [samples.size])

/-- Whether samples of a shape make up a tile: as one list, or as a list of rows. -/
def fitsShape (width : Int) (shape : List Nat) : Bool :=
  shape = [width.natAbs * width.natAbs] || (0 ≤ width && shape = [width.toNat, width.toNat])

def mostAxes : Nat := 64

def shapeFailure (shape : List Nat) : Failure :=
  if mostAxes ≤ shape.length then .tooManyAxes mostAxes else .raggedShape shape

def ofNested (cell : Cell) (width : Int) (heights : Nested) : Except Failure Tile :=
  let (shape, whole) := heights.shape
  if !whole || mostAxes < shape.length then .error (shapeFailure shape)
  else
    match heights.flatten.find? fun value => !inSampleRange value with
    | some value => .error (sampleFailure value)
    | none =>
      if fitsShape width shape then ofSamples cell width heights.flatten.toArray
      else .error (.wrongShape width shape)

def name (tile : Tile) : String := tile.cell.name

def byteSize (tile : Tile) : Nat := 2 * tile.samples.size

def sampleAt (tile : Tile) (row column : Int) : Int :=
  tile.samples.getD (row * tile.width + column).toNat voidHeight

/-! ### Looking up a coordinate -/

section

variable {α : Type} [Scalar α]

def degrees (n : Int) : Except Failure α :=
  match Scalar.ofInt? n with
  | some degrees => .ok degrees
  | none => .error .integerTooLarge

def nodeAt (tile : Tile) (distance : α) : Except Failure Int :=
  (Scalar.nearest (distance * Scalar.ofInt ((tile.width : Int) - 1))).mapError .noInteger

/-- How far south of its northern edge a tile has a coordinate, in samples. -/
def rowOf (tile : Tile) (lat : α) : Except Failure Int :=
  (degrees (tile.cell.lat + 1)).bind fun north => tile.nodeAt (north - lat)

def columnOf (tile : Tile) (lon : α) : Except Failure Int :=
  (degrees tile.cell.lon).bind fun west => tile.nodeAt (lon - west)

def isIndex (tile : Tile) (n : Int) : Bool := 0 ≤ n && n < tile.width

def indexAt (tile : Tile) (place : Place α) : Except Failure (Int × Int) :=
  match tile.rowOf place.lat with
  | .error failure => .error failure
  | .ok row =>
    match tile.columnOf place.lon with
    | .error failure => .error failure
    | .ok column =>
      if tile.isIndex row && tile.isIndex column then .ok (row, column)
      else .error (.outsideTile (Scalar.text place.lat) (Scalar.text place.lon) tile.name)

/-- The height at the sample nearest to a place; none where that sample is void. -/
def heightAt (tile : Tile) (place : Place α) : Except Failure (Option Int) :=
  (tile.indexAt place).map fun (row, column) =>
    let height := tile.sampleAt row column
    if height = voidHeight then none else some height

end

/-! ### Summaries -/

def voidCount (tile : Tile) : Nat := tile.samples.countP (· = voidHeight)

def heights (tile : Tile) : List Int := tile.samples.toList.filter (· ≠ voidHeight)

/-- The least and the greatest of some heights; zero twice when there are none. -/
def rangeOf : List Int → Int × Int
  | [] => (0, 0)
  | first :: rest => (rest.foldl min first, rest.foldl max first)

def heightRange (tile : Tile) : Int × Int := rangeOf tile.heights

/-- West, south, east and north edge in whole degrees. -/
def bounds (tile : Tile) : List Int :=
  [tile.cell.lon, tile.cell.lat, tile.cell.lon + 1, tile.cell.lat + 1]

def edges {α : Type} [Scalar α] (tile : Tile) : Except Failure (List α) := tile.bounds.mapM degrees

def rows (tile : Tile) : List (List Int) :=
  (List.range tile.width).map fun row =>
    (List.range tile.width).map fun column => tile.sampleAt (row : Nat) (column : Nat)

def describe (tile : Tile) : String :=
  "HeightTile(" ++ tile.name ++ ", width=" ++ toString tile.width ++ ")"

end Tile

end Elevation
