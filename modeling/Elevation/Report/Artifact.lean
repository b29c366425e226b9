import Elevation.Json.Value
import Elevation.Report.Points
import Elevation.Tile.Hillshade

/-!
Rendered and exported tiles.

A tile is rendered as a picture in one of two styles, or exported with its samples and its place on
the globe. The result goes to an artifact store, if there is one and if it accepts it.
-/
namespace Elevation.Report

inductive Style where
  | terrain
  | hillshade
  deriving DecidableEq, Repr

def Style.name : Style → String
  | .terrain => "terrain"
  | .hillshade => "hillshade"

def styles : List Style := [.terrain, .hillshade]

def styleNames : List String := styles.map Style.name

def Style.ofName (name : String) : Except Failure Style :=
  match styles.find? fun style => style.name = name with
  | some style => .ok style
  | none => .error (.previewStyle name styleNames)

inductive Content where
  | picture (picture : Picture)
  | raster (raster : Raster Float)

/-- The number of bytes that content takes up before any compression: one for a shade of grey,
three for a colour, two for a sample. -/
def Content.size : Content → Nat
  | .picture (.grey width height _) => width * height
  | .picture (.colour width height _) => 3 * width * height
  | .raster source => 2 * source.width * source.height

structure Artifact where
  tile : Tile
  style : Option Style
  content : Content

namespace Artifact

def suffix (artifact : Artifact) : String :=
  match artifact.style with
  | some style => "_" ++ style.name ++ ".png"
  | none => ".tif"

def format (artifact : Artifact) : String :=
  if artifact.style.isSome then "png" else "geotiff"

def mimeType (artifact : Artifact) : String :=
  if artifact.style.isSome then "image/png" else "image/tiff"

def type (artifact : Artifact) : String :=
  if artifact.style.isSome then "srtm_preview" else "srtm_tile"

def summary (artifact : Artifact) : String := "SRTM tile (" ++ artifact.type ++ ")"

end Artifact

def wholes (numbers : List Int) : Json := .floats (numbers.map Float.ofInt)

def rangeNumbers (range : Int × Int) : List Int := [range.1, range.2]

def Artifact.metadata (artifact : Artifact) : Json :=
  let tile := artifact.tile
  match artifact.style with
  | some style => .object
    [("type", .string artifact.type), ("tile", .string tile.name), ("style", .string style.name),
      ("format", .string "png"), ("bounds", wholes tile.bounds)]
  | none => .object
    [("schema_version", .string "1.0"), ("type", .string artifact.type),
      ("tile", .string tile.name), ("crs", .string ("EPSG:" ++ toString Tile.geographic)), ("bounds", wholes tile.bounds),
      ("shape", .list [.ofNat tile.width, .ofNat tile.width]), ("dtype", .string Tile.dtype),
      ("elevation_range", wholes (rangeNumbers tile.heightRange)),
      ("void_samples", .ofNat tile.voidCount)]

def render (style : Style) (tile : Tile) : Except Failure Artifact :=
  match style with
  | .terrain =>
    if tile.width = 0 then .error .emptyPicture
    else .ok ⟨tile, some style, .picture (Terrain.picture Float32 tile)⟩
  | .hillshade => tile.hillshade.map fun picture => ⟨tile, some style, .picture picture⟩

def exported (tile : Tile) : Except Failure Artifact :=
  tile.geotiff.map fun raster => ⟨tile, none, .raster raster⟩

inductive Store where
  | absent
  | ready
  | failing (reason : String)
  deriving DecidableEq, Repr

def Store.accept (store : Store) (artifact : Artifact) : Except Failure Artifact :=
  match store with
  | .absent => .error .noStore
  | .ready => .ok artifact
  | .failing reason => .error (.raised (.ofName "OSError") reason)

section

variable {α σ : Type} [Scalar α] [Machine]

def storeTile (make : Tile → Except Failure Artifact) (store : Store) (provider : Provider σ)
    (place : Place α) (world : World σ) : Except Failure Artifact × Provider σ × World σ :=
  match provider.tileAt place world with
  | (.error failure, provider, world) => (.error failure, provider, world)
  | (.ok tile, provider, world) =>
    match make tile with
    | .error failure => (.error failure, provider, world)
    | .ok artifact => (store.accept artifact, provider, world)

end

end Elevation.Report
