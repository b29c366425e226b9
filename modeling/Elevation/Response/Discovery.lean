import Elevation.Decimal.Written
import Elevation.Fields.Checked
import Elevation.Json.Printer
import Elevation.Tile.Samples

/-!
Answers about the data set and the server: partitions, coverage, state and capabilities, and the
answer that reports a failure.

Each answer is a record with a form as structured data, a form as text, and a reader that checks
every member.
-/
namespace Elevation

/-! ### The data set -/

namespace Dataset

def name : String := "SRTM3 v2.1"

def facts : List (String × Json) :=
  [("id", .string "srtm3"), ("name", .string name), ("resolution_arcsec", .int 3),
    ("resolution_m", .int 90), ("coverage", .string "60N-56S"), ("vertical_datum", .string "EGM96"),
    ("vertical_unit", .string "metres"), ("horizontal_crs", .string "EPSG:4326"),
    ("dtype", .string "int16"), ("nodata_value", .int Tile.voidHeight),
    ("void_filled", .bool false), ("license", .string "Public Domain")]

def outputFormats : List String := ["png", "geotiff"]

end Dataset

namespace Response

open Fields

def joinLines (lines : List String) : String := String.intercalate "\n" lines

def joinNames (names : List String) : String := String.intercalate ", " names

/-! ### Failures -/

structure ErrorReport where
  error : String
  errorType : Option String

namespace ErrorReport

def ofMembers [Coercion] (members : Members) : Checked ErrorReport :=
  closed members ["error", "error_type"] <|
    ap (ap (.ok mk) (required members "error" string))
      (optional members "error_type" (.ok none) (nullable string))

def toJson (report : ErrorReport) : Json := .object
  [("error", .string report.error), ("error_type", .ofOption .string report.errorType)]

def toText (report : ErrorReport) : String := "Error: " ++ report.error

end ErrorReport

/-! ### Partitions -/

structure Partition where
  name : String
  tileCount : Int

namespace Partition

def ofMembers [Coercion] (members : Members) : Checked Partition :=
  closed members ["name", "tile_count"] <|
    ap (ap (.ok mk) (required members "name" string))
      (required members "tile_count" (atLeast 0 int))

def toJson (info : Partition) : Json := .object
  [("name", .string info.name), ("tile_count", .int info.tileCount)]

def toText (info : Partition) : String := info.name ++ ": " ++ toString info.tileCount ++ " tiles"

end Partition

structure Partitions where
  partitions : List Partition
  totalTiles : Int
  message : String

namespace Partitions

def ofMembers [Coercion] (members : Members) : Checked Partitions :=
  closed members ["partitions", "total_tiles", "message"] <|
    ap (ap (ap (.ok mk)
      (required members "partitions" (list (record "PartitionInfo" Partition.ofMembers))))
      (required members "total_tiles" (atLeast 0 int)))
      (required members "message" string)

def toJson (answer : Partitions) : Json := .object
  [("partitions", .ofList Partition.toJson answer.partitions),
    ("total_tiles", .int answer.totalTiles), ("message", .string answer.message)]

def toText (answer : Partitions) : String :=
  joinLines (answer.message :: "" :: answer.partitions.map fun info => "  " ++ info.toText)

end Partitions

/-! ### Coverage -/

structure CoverageCheck where
  bbox : List Float
  fullyCovered : Bool
  percentage : Float
  required : Int
  available : List String
  missing : List String
  message : String

namespace CoverageCheck

def ofMembers [Coercion] (members : Members) : Checked CoverageCheck :=
  closed members ["bbox", "fully_covered", "coverage_percentage", "tiles_required", "tile_ids",
      "missing_tiles", "message"] <|
    ap (ap (ap (ap (ap (ap (ap (.ok mk)
      (Fields.required members "bbox" (list float)))
      (Fields.required members "fully_covered" bool))
      (Fields.required members "coverage_percentage" (between 0 100 float)))
      (Fields.required members "tiles_required" (atLeast 0 int)))
      (Fields.required members "tile_ids" (list string)))
      (Fields.required members "missing_tiles" (list string)))
      (Fields.required members "message" string)

def toJson (answer : CoverageCheck) : Json := .object
  [("bbox", .floats answer.bbox), ("fully_covered", .bool answer.fullyCovered),
    ("coverage_percentage", .float answer.percentage), ("tiles_required", .int answer.required),
    ("tile_ids", .texts answer.available), ("missing_tiles", .texts answer.missing),
    ("message", .string answer.message)]

def mostNames : Nat := 10

/-- A line with the first names of a list, and a line that counts the others. -/
def namesLines (title : String) (names : List String) : List String :=
  if names.isEmpty then []
  else
    (title ++ ": " ++ joinNames (names.take mostNames))
      :: (if mostNames < names.length then
          ["  ... and " ++ toString (names.length - mostNames) ++ " more"] else [])

def toText (answer : CoverageCheck) : String :=
  let status :=
    if answer.fullyCovered then "fully covered"
    else Decimal.fixedText 1 answer.percentage ++ "% covered"
  joinLines
    (["Area: [" ++ joinNames (answer.bbox.map (Decimal.fixedText 4)) ++ "]", "Status: " ++ status,
        "Tiles required: " ++ toString answer.required]
      ++ namesLines "Tile IDs" answer.available ++ namesLines "Missing" answer.missing)

end CoverageCheck

/-! ### The state of the server -/

def serverName : String := "chuk-mcp-srtm"
def serverVersion : String := "0.1.0"

structure Status where
  server : String
  version : String
  dataset : String
  storage : String
  storeAvailable : Bool
  cachedTiles : Int
  maxCachedTiles : Option Int
  cacheHits : Int
  cacheMisses : Int

namespace Status

def ofMembers [Coercion] (members : Members) : Checked Status :=
  closed members ["server", "version", "dataset", "storage_provider", "artifact_store_available",
      "cached_tiles", "max_cached_tiles", "cache_hits", "cache_misses"] <|
    ap (ap (ap (ap (ap (ap (ap (ap (ap (.ok mk)
      (optional members "server" (.ok serverName) string))
      (optional members "version" (.ok serverVersion) string))
      (required members "dataset" string))
      (required members "storage_provider" string))
      (optional members "artifact_store_available" (.ok false) bool))
      (optional members "cached_tiles" (.ok 0) (atLeast 0 int)))
      (optional members "max_cached_tiles" (.ok none) (nullable int)))
      (optional members "cache_hits" (.ok 0) (atLeast 0 int)))
      (optional members "cache_misses" (.ok 0) (atLeast 0 int))

def toJson (answer : Status) : Json := .object
  [("server", .string answer.server), ("version", .string answer.version),
    ("dataset", .string answer.dataset), ("storage_provider", .string answer.storage),
    ("artifact_store_available", .bool answer.storeAvailable),
    ("cached_tiles", .int answer.cachedTiles),
    ("max_cached_tiles", .ofOption .int answer.maxCachedTiles),
    ("cache_hits", .int answer.cacheHits), ("cache_misses", .int answer.cacheMisses)]

def toText (answer : Status) : String :=
  let bound :=
    match answer.maxCachedTiles with
    | some bound => toString bound
    | none => "unbounded"
  joinLines
    [answer.server ++ " v" ++ answer.version, "Dataset: " ++ answer.dataset,
      "Storage: " ++ answer.storage,
      "Artifact store: " ++ (if answer.storeAvailable then "available" else "not available"),
      "Tile cache: " ++ toString answer.cachedTiles ++ "/" ++ bound ++ " ("
        ++ toString answer.cacheHits ++ " hits, " ++ toString answer.cacheMisses ++ " misses)"]

end Status

/-! ### Capabilities -/

structure Capabilities where
  server : String
  version : String
  dataset : List (String × Json)
  partitions : List String
  previewStyles : List String
  outputFormats : List String
  toolCount : Int
  guidance : String
  message : String

namespace Capabilities

def ofMembers [Coercion] (members : Members) : Checked Capabilities :=
  closed members ["server", "version", "dataset", "partitions", "preview_styles", "output_formats",
      "tool_count", "llm_guidance", "message"] <|
    ap (ap (ap (ap (ap (ap (ap (ap (ap (.ok mk)
      (required members "server" string))
      (required members "version" string))
      (required members "dataset" dictionary))
      (required members "partitions" (list string)))
      (required members "preview_styles" (list string)))
      (required members "output_formats" (list string)))
      (required members "tool_count" (atLeast 0 int)))
      (required members "llm_guidance" string))
      (required members "message" string)

def toJson (answer : Capabilities) : Json := .object
  [("server", .string answer.server), ("version", .string answer.version),
    ("dataset", .object answer.dataset), ("partitions", .texts answer.partitions),
    ("preview_styles", .texts answer.previewStyles),
    ("output_formats", .texts answer.outputFormats), ("tool_count", .int answer.toolCount),
    ("llm_guidance", .string answer.guidance), ("message", .string answer.message)]

def toText (answer : Capabilities) : String :=
  joinLines
    [answer.server ++ " v" ++ answer.version, "Tools: " ++ toString answer.toolCount,
      "Dataset: " ++ ((answer.dataset.lookup "name").map Json.shown).getD "unknown",
      "Partitions: " ++ joinNames answer.partitions,
      "Preview styles: " ++ joinNames answer.previewStyles,
      "Output formats: " ++ joinNames answer.outputFormats, "", answer.guidance]

end Capabilities

end Response

end Elevation
