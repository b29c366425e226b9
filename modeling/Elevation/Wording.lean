/-!
The sentences that the library says, with holes for what they speak about.

A hole is a pair of braces, with or without a note on how its filler is to be written; `fill` puts
the fillers into the holes from left to right.
-/
namespace Elevation.Wording

/-- Fills the holes of a sentence; `inside` marks that the front of the text lies in a hole. -/
def fillFrom (inside : Bool) : List Char → List String → List Char
  | [], _ => []
  | c :: rest, fillers =>
    if c = '\x7b' then (fillers.headD "").toList ++ fillFrom true rest (fillers.drop 1)
    else if c = '\x7d' then fillFrom false rest fillers
    else if inside then fillFrom true rest fillers
    else c :: fillFrom false rest fillers

def fill (sentence : String) (fillers : List String) : String :=
  String.ofList (fillFrom false sentence.toList fillers)

/-! ### What failed -/

def areaNotFound : String := "Area \x7b\x7d not found for \x7b\x7d,\x7b\x7d"
def invalidLatitude : String := "Latitude \x7b\x7d outside [-90, 90]"
def invalidLongitude : String := "Longitude \x7b\x7d outside [-180, 180]"
def duplicateArea : String := "Duplicate area key \x7b\x7d: \x7b\x7d vs. \x7b\x7d"
def malformedAreaCode : String := "Malformed area code '\x7b\x7d' in \x7b\x7d"
def missingAreaResource : String := "Area names resource missing for partition \x7b\x7d"
def unreadableAreaResource : String := "Cannot read area names for partition \x7b\x7d: \x7b\x7d"
def cacheDirNotDirectory : String := "Cache path has to be a directory: \x7b\x7d"
def cacheDirNotCreatable : String := "Cannot create cache directory \x7b\x7d: \x7b\x7d"
def invalidSetting : String := "Invalid value '\x7b\x7d' for \x7b\x7d: \x7b\x7d"
def downloadFailed : String := "Failed to download \x7b\x7d: \x7b\x7d"
def archiveUnreadable : String := "Cannot read tile archive \x7b\x7d: \x7b\x7d"
def archiveEmpty : String := "Tile archive \x7b\x7d has no entries"
def archiveShortRead : String := "Tile archive \x7b\x7d is truncated: \x7b\x7d of \x7b\x7d bytes"
def archiveTooLong : String := "Tile archive \x7b\x7d holds more than \x7b\x7d bytes"
def outsideTile : String := "Coordinate \x7b\x7d,\x7b\x7d outside tile \x7b\x7d"
def invalidBbox : String := "Invalid bounding box: must be [west, south, east, north]"
def invalidBboxValues : String :=
  "Invalid bounding box values: west (\x7b\x7d) must be < east (\x7b\x7d)"
def invalidBboxLat : String :=
  "Invalid bounding box values: south (\x7b\x7d) must be < north (\x7b\x7d)"
def noPoints : String := "At least one [lon, lat] point is required"
def tooManyPoints : String := "Too many points (\x7b\x7d); limit is \x7b\x7d"
def invalidPoint : String := "Point \x7b\x7d must be a [lon, lat] pair"
def invalidPreviewStyle : String := "Invalid preview style '\x7b\x7d'. Available: \x7b\x7d"
def noArtifactStore : String :=
  "No artifact store available. Configure CHUK_ARTIFACTS_PROVIDER environment "
    ++ "variable (memory or filesystem)."

/-! ### What was done -/

def pointElevation : String := "Elevation at point: \x7b:.1f\x7dm"
def pointNoData : String := "No elevation data at point (void sample)"
def pointsElevation : String := "Retrieved elevation for \x7b\x7d points (\x7b\x7d void)"
def partitionsList : String := "\x7b\x7d partitions covering \x7b\x7d tiles"
def coverageFull : String := "Full coverage: \x7b\x7d tiles"
def coveragePartial : String := "Partial coverage: \x7b\x7d of \x7b\x7d tiles"
def tileInfo : String := "Tile \x7b\x7d (\x7b\x7d void samples)"
def tilePreview : String := "Tile \x7b\x7d rendered to PNG"
def tileExport : String := "Tile \x7b\x7d exported as \x7b\x7d"

end Elevation.Wording
