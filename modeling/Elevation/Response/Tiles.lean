import Elevation.Failure
import Elevation.Response.Discovery

/-!
Answers about elevations and tiles.

A void has no elevation: the member is null in structured data and "no data" in text.
-/
namespace Elevation.Response

open Fields

def elevationText : Option Float → String
  | none => "no data"
  | some height => Decimal.fixedText 1 height ++ "m"

/-- The least and the greatest value of a range, which has to have two members. -/
def rangeEnds (range : List Float) : Except Failure (Float × Float) :=
  match range with
  | [low, high] => .ok (low, high)
  | range => .error (.rangeMembers range.length)

def placeText (lon lat : Float) : String :=
  "(" ++ Decimal.fixedText 6 lon ++ ", " ++ Decimal.fixedText 6 lat ++ ")"

/-! ### Points -/

structure PointElevation where
  lon : Float
  lat : Float
  elevation : Option Float
  tile : String
  void : Bool
  message : String

namespace PointElevation

def ofMembers [Coercion] (members : Members) : Checked PointElevation :=
  closed members ["lon", "lat", "elevation_m", "tile", "void", "message"] <|
    ap (ap (ap (ap (ap (ap (.ok mk)
      (required members "lon" float))
      (required members "lat" float))
      (required members "elevation_m" (nullable float)))
      (required members "tile" string))
      (required members "void" bool))
      (required members "message" string)

def toJson (answer : PointElevation) : Json := .object
  [("lon", .float answer.lon), ("lat", .float answer.lat),
    ("elevation_m", .ofOption .float answer.elevation), ("tile", .string answer.tile),
    ("void", .bool answer.void), ("message", .string answer.message)]

def toText (answer : PointElevation) : String :=
  joinLines
    (["Elevation at " ++ placeText answer.lon answer.lat ++ ": " ++ elevationText answer.elevation,
        "Tile: " ++ answer.tile]
      ++ if answer.void then ["WARNING: nearest sample is a data void"] else [])

end PointElevation

structure PointInfo where
  lon : Float
  lat : Float
  elevation : Option Float

namespace PointInfo

def ofMembers [Coercion] (members : Members) : Checked PointInfo :=
  closed members ["lon", "lat", "elevation_m"] <|
    ap (ap (ap (.ok mk)
      (required members "lon" float))
      (required members "lat" float))
      (required members "elevation_m" (nullable float))

def toJson (info : PointInfo) : Json := .object
  [("lon", .float info.lon), ("lat", .float info.lat),
    ("elevation_m", .ofOption .float info.elevation)]

def line (info : PointInfo) : String :=
  "  " ++ placeText info.lon info.lat ++ ": " ++ elevationText info.elevation

end PointInfo

structure MultiPoint where
  pointCount : Int
  points : List PointInfo
  range : List Float
  voidCount : Int
  tiles : List String
  message : String

namespace MultiPoint

def ofMembers [Coercion] (members : Members) : Checked MultiPoint :=
  closed members ["point_count", "points", "elevation_range", "void_count", "tiles", "message"] <|
    ap (ap (ap (ap (ap (ap (.ok mk)
      (required members "point_count" (atLeast 1 int)))
      (required members "points" (list (record "PointInfo" PointInfo.ofMembers))))
      (required members "elevation_range" (list float)))
      (required members "void_count" (atLeast 0 int)))
      (required members "tiles" (list string)))
      (required members "message" string)

def toJson (answer : MultiPoint) : Json := .object
  [("point_count", .int answer.pointCount), ("points", .ofList PointInfo.toJson answer.points),
    ("elevation_range", .floats answer.range), ("void_count", .int answer.voidCount),
    ("tiles", .texts answer.tiles), ("message", .string answer.message)]

def toText (answer : MultiPoint) : Except Failure String :=
  (rangeEnds answer.range).map fun (low, high) =>
    joinLines
      (["Elevation for " ++ toString answer.pointCount ++ " point(s)",
          "Range: " ++ Decimal.fixedText 1 low ++ "m to " ++ Decimal.fixedText 1 high ++ "m",
          "Tiles: " ++ joinNames answer.tiles, ""]
        ++ answer.points.map PointInfo.line
        ++ if answer.voidCount = 0 then []
          else ["WARNING: " ++ toString answer.voidCount ++ " point(s) fell on data voids"])

end MultiPoint

/-! ### Tiles -/

structure TileDescription where
  tile : String
  minLat : Int
  minLon : Int
  width : Int
  bounds : List Float
  range : List Float
  voidSamples : Int
  archiveUrl : String
  archivePath : String
  message : String

namespace TileDescription

def leastWidth : Int := 2

def ofMembers [Coercion] (members : Members) : Checked TileDescription :=
  closed members ["tile", "min_lat", "min_lon", "width", "bounds", "elevation_range",
      "void_samples", "archive_url", "archive_path", "message"] <|
    ap (ap (ap (ap (ap (ap (ap (ap (ap (ap (.ok mk)
      (required members "tile" string))
      (required members "min_lat" int))
      (required members "min_lon" int))
      (required members "width" (atLeast leastWidth int)))
      (required members "bounds" (list float)))
      (required members "elevation_range" (list float)))
      (required members "void_samples" (atLeast 0 int)))
      (required members "archive_url" string))
      (required members "archive_path" string))
      (required members "message" string)

def toJson (answer : TileDescription) : Json := .object
  [("tile", .string answer.tile), ("min_lat", .int answer.minLat), ("min_lon", .int answer.minLon),
    ("width", .int answer.width), ("bounds", .floats answer.bounds),
    ("elevation_range", .floats answer.range), ("void_samples", .int answer.voidSamples),
    ("archive_url", .string answer.archiveUrl), ("archive_path", .string answer.archivePath),
    ("message", .string answer.message)]

def toText (answer : TileDescription) : Except Failure String :=
  (rangeEnds answer.range).map fun (low, high) =>
    joinLines
      ["Tile " ++ answer.tile ++ " (" ++ toString answer.width ++ "x" ++ toString answer.width
          ++ ")",
        "Bounds: " ++ joinNames (answer.bounds.map (Decimal.fixedText 1)),
        "Elevation: " ++ Decimal.fixedText 0 low ++ "m to " ++ Decimal.fixedText 0 high ++ "m",
        "Void samples: " ++ toString answer.voidSamples, "Archive: " ++ answer.archiveUrl,
        "Cached at: " ++ answer.archivePath]

end TileDescription

structure TileArtifact where
  tile : String
  reference : String
  format : String
  sizeBytes : Int
  message : String

namespace TileArtifact

def ofMembers [Coercion] (members : Members) : Checked TileArtifact :=
  closed members ["tile", "artifact_ref", "format", "size_bytes", "message"] <|
    ap (ap (ap (ap (ap (.ok mk)
      (required members "tile" string))
      (required members "artifact_ref" string))
      (required members "format" string))
      (required members "size_bytes" (atLeast 0 int)))
      (required members "message" string)

def toJson (answer : TileArtifact) : Json := .object
  [("tile", .string answer.tile), ("artifact_ref", .string answer.reference),
    ("format", .string answer.format), ("size_bytes", .int answer.sizeBytes),
    ("message", .string answer.message)]

def sizeText (answer : TileArtifact) : Except Failure String :=
  let bytes := Decimal.nearestWhole answer.sizeBytes.toNat
  if 1 <<< 1034 ≤ bytes then .error .quotientTooLarge
  else .ok (String.ofList (Decimal.placesText 1 (Decimal.unitsOf 1 bytes (-10))))

def toText (answer : TileArtifact) : Except Failure String :=
  answer.sizeText.map fun size =>
    joinLines
      [answer.message, "Artifact: " ++ answer.reference,
        "Format: " ++ answer.format ++ " (" ++ size ++ " KB)"]

end TileArtifact

end Elevation.Response
