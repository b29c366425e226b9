import Elevation.Tile.Basic

/-!
Where the pixels of a tile lie on the globe, and the raster file that says so.

Samples sit on the nodes of a grid whose outermost nodes are the edges of the cell. A pixel has its
sample at its centre, so the raster reaches half a sample beyond the cell on every side.
-/
namespace Elevation

/-- An affine map from a column and a row to a longitude and a latitude:
`(a * column + b * row + c, d * column + e * row + f)`. -/
structure Affine (α : Type) where
  a : α
  b : α
  c : α
  d : α
  e : α
  f : α
  deriving Repr

namespace Affine

variable {α : Type} [Scalar α]

def toList (map : Affine α) : List α := [map.a, map.b, map.c, map.d, map.e, map.f]

def apply (map : Affine α) (column row : α) : Place α :=
  ⟨map.d * column + map.e * row + map.f, map.a * column + map.b * row + map.c⟩

/-- The map with its origin at the north-west corner and the given size of a pixel. -/
def ofOrigin (west north width height : α) : Affine α :=
  ⟨width, Scalar.ofInt 0, west, Scalar.ofInt 0, Scalar.ofInt 0 - height, north⟩

end Affine

/-- A raster file: the format, the sizes and the number of its bands, the type of its samples, the system
of its coordinates, where its pixels lie, the sample that stands for none, and the samples themselves, for
each band row by row. -/
structure Raster (α : Type) where
  driver : String
  width : Nat
  height : Nat
  count : Nat
  dtype : String
  crs : Nat
  transform : Affine α
  nodata : Int
  bands : List (List (List Int))

namespace Tile

def metresPerDegree : Int := 111320

section

variable {α : Type} [Scalar α]

def spacing (tile : Tile) : Except Failure α :=
  if tile.width = 1 then .error .zeroSpacing else .ok (Scalar.ratio 1 ((tile.width : Int) - 1))

def halfOf (x : α) : α := x / Scalar.ofInt 2

def transform (tile : Tile) : Except Failure (Affine α) :=
  (tile.spacing).bind fun spacing =>
    (degrees tile.cell.lon).bind fun west =>
      (degrees (tile.cell.lat + 1)).map fun north =>
        .ofOrigin (west - halfOf spacing) (north + halfOf spacing) spacing spacing

def geographic : Nat := 4326

def dtype : String := "int16"

def rasterAt (tile : Tile) (transform : Affine α) : Raster α :=
  { driver := "GTiff"
    width := tile.width
    height := tile.width
    count := 1
    dtype := dtype
    crs := geographic
    transform := transform
    nodata := voidHeight
    bands := [tile.rows] }

/-- The raster file of a tile. Nothing is written where there are no samples. -/
def geotiff (tile : Tile) : Except Failure (Raster α) :=
  match (tile.transform : Except Failure (Affine α)) with
  | .error failure => .error failure
  | .ok transform => if tile.width = 0 then .error .emptyRaster else .ok (tile.rasterAt transform)

end

def radians (degrees : Float) : Float := degrees * (3.141592653589793 / 180.0)

/-- East-west and north-south distance of neighbouring samples in metres, half-way up the tile. -/
def cellSize (tile : Tile) : Except Failure (Float × Float) :=
  (tile.spacing).bind fun spacing =>
    (degrees tile.cell.lat).map fun south =>
      let length := spacing * Float.ofInt metresPerDegree
      (length * Float.cos (radians (south + 0.5)), length)

end Tile

end Elevation
