import Elevation.Provider.Basic

/-!
Elevations at several points.

The points are served one after the other. The summary gives the range of the elevations, the
number of voids, and every tile once, in the order in which the points reach them.
-/
namespace Elevation.Report

structure Points where
  heights : List (Option Int)
  range : Int × Int
  voidCount : Nat
  tiles : List String
  deriving DecidableEq, Repr

def mostPoints : Nat := 1000

section

variable {α : Type} [Scalar α]

def numbersText (numbers : List α) : String :=
  "[" ++ String.intercalate ", " (numbers.map Scalar.text) ++ "]"

/-- Members of a request as places; each is a pair of longitude and latitude. -/
def placesOf : List (List α) → Except Failure (List (Place α))
  | [] => .ok []
  | [lon, lat] :: rest => (placesOf rest).map (⟨lat, lon⟩ :: ·)
  | point :: _ => .error (.invalidPoint (numbersText point))

/-- The places of a request, which needs at least one point and has a greatest number of them. -/
def validPlaces (points : List (List α)) : Except Failure (List (Place α)) :=
  if points.isEmpty then .error .noPoints
  else if mostPoints < points.length then .error (.tooManyPoints points.length mostPoints)
  else placesOf points

/-- The cells of some places, each once and in the order of their first use. -/
def cellsOf : List (Place α) → Except Failure (List Cell)
  | [] => .ok []
  | place :: rest =>
    match place.cell with
    | .error failure => .error failure
    | .ok cell => (cellsOf rest).map fun cells => cell :: cells.filter (·.key ≠ cell.key)

def Points.summarize (places : List (Place α)) (heights : List (Option Int)) :
    Except Failure Points :=
  (cellsOf places).map fun cells =>
    { heights := heights
      range := Tile.rangeOf (heights.filterMap id)
      voidCount := heights.countP Option.isNone
      tiles := cells.map Cell.name }

variable {σ : Type} [Machine]

def queryPlaces (provider : Provider σ) (places : List (Place α)) (world : World σ) :
    Except Failure Points × Provider σ × World σ :=
  match provider.heightsAt places world with
  | (.error failure, provider, world) => (.error failure, provider, world)
  | (.ok heights, provider, world) => (Points.summarize places heights, provider, world)

structure Point where
  height : Option Int
  tile : String
  deriving DecidableEq, Repr

def queryPlace (provider : Provider σ) (place : Place α) (world : World σ) :
    Except Failure Point × Provider σ × World σ :=
  match provider.heightAt place world with
  | (.error failure, provider, world) => (.error failure, provider, world)
  | (.ok height, provider, world) =>
    (place.name.map fun name => ⟨height, name⟩, provider, world)

/-! ### A tile and its archive -/

structure TileInfo where
  tile : Tile
  archiveUrl : String
  archivePath : String

def tileInfo (provider : Provider σ) (place : Place α) (world : World σ) :
    Except Failure TileInfo × Provider σ × World σ :=
  match provider.tileAt place world with
  | (.error failure, provider, world) => (.error failure, provider, world)
  | (.ok tile, provider, world) =>
    match provider.archiveUrl place with
    | .error failure => (.error failure, provider, world)
    | .ok url => (.ok ⟨tile, url, (provider.pathOf url).text⟩, provider, world)

end

end Elevation.Report
