import Elevation.Response.Answer
import Elevation.Session.Basic

/-!
The tools that a session offers, and the answers that they give.

Every request is answered: a failure becomes an answer that reports it. An answer comes in the mode
that is asked for.
-/
namespace Elevation

inductive Request where
  | partitions
  | coverage (box : List Float)
  | status
  | capabilities
  | point (place : Place Float)
  | points (points : List (List Float))
  | tileInfo (place : Place Float)
  | tilePreview (place : Place Float) (style : String)
  | tileExport (place : Place Float)

namespace Tool

def usualStyle : String := "terrain"

def place : List (String × Option String) := [("lon", none), ("lat", none)]

def mode : String × Option String := ("output_mode", some Response.Answer.usualMode)

/-- The tools by name; each parameter has its usual value, or none if it has to be given. -/
def list : List (String × List (String × Option String)) :=
  [("srtm_list_partitions", [mode]),
    ("srtm_check_coverage", [("bbox", none), mode]),
    ("srtm_status", [mode]),
    ("srtm_capabilities", [mode]),
    ("srtm_elevation_point", place ++ [mode]),
    ("srtm_elevation_points", [("points", none), mode]),
    ("srtm_tile_info", place ++ [mode]),
    ("srtm_tile_preview", place ++ [("style", some usualStyle), mode]),
    ("srtm_tile_export", place ++ [mode])]

end Tool

structure Call where
  request : Request
  mode : String

namespace Call

open Fields

def readPlace [Coercion] (members : Members) : Checked (Place Float) :=
  ap (ap (.ok fun lon lat => ⟨lat, lon⟩) (required members "lon" float))
    (required members "lat" float)

/-- The request that the arguments of a tool make; none if there is no such tool. -/
def readRequest [Coercion] (tool : String) (members : Members) : Option (Checked Request) :=
  match tool with
  | "srtm_list_partitions" => some (.ok .partitions)
  | "srtm_check_coverage" => some ((required members "bbox" (list float)).map .coverage)
  | "srtm_status" => some (.ok .status)
  | "srtm_capabilities" => some (.ok .capabilities)
  | "srtm_elevation_point" => some ((readPlace members).map .point)
  | "srtm_elevation_points" =>
    some ((required members "points" (list (list float))).map .points)
  | "srtm_tile_info" => some ((readPlace members).map .tileInfo)
  | "srtm_tile_preview" =>
    some (ap ((readPlace members).map .tilePreview)
      (optional members "style" (.ok Tool.usualStyle) string))
  | "srtm_tile_export" => some ((readPlace members).map .tileExport)
  | _ => none

def ofMembers [Coercion] (tool : String) (members : Members) : Option (Checked Call) :=
  (readRequest tool members).map fun request =>
    ap (request.map Call.mk) (optional members "output_mode" (.ok Response.Answer.usualMode) string)

end Call

namespace Response

/-! ### Answers from reports -/

def ErrorReport.ofFailure (failure : Failure) : ErrorReport := ⟨failure.message, some failure.kind⟩

def Partitions.ofCounts (counts : List (String × Nat)) : Partitions :=
  let total : Nat := counts.foldl (fun total count => total + count.2) 0
  { partitions := counts.map fun count => ⟨count.1, count.2⟩
    totalTiles := total
    message := Wording.fill Wording.partitionsList [toString counts.length, toString total] }

def CoverageCheck.ofSurvey (box : List Float) (survey : Report.Survey Float) : CoverageCheck :=
  { bbox := box
    fullyCovered := survey.fullyCovered
    percentage := survey.percentage
    required := survey.required
    available := survey.available
    missing := survey.missing
    message :=
      if survey.fullyCovered then Wording.fill Wording.coverageFull [toString survey.required]
      else
        Wording.fill Wording.coveragePartial
          [toString survey.available.length, toString survey.required] }

def storageVariable : String := "CHUK_ARTIFACTS_PROVIDER"

def usualStorage : String := "memory"

def Status.ofSession {σ : Type} (session : Session σ) : Status :=
  let counts := session.cacheCounts
  { server := serverName
    version := serverVersion
    dataset := Dataset.name
    storage := (session.environment.lookup storageVariable).getD usualStorage
    storeAvailable := session.store ≠ .absent
    cachedTiles := counts.tiles
    maxCachedTiles := counts.bound.map fun bound => (bound : Int)
    cacheHits := counts.hits
    cacheMisses := counts.misses }

def toolGuidance : String :=
  "Use srtm_check_coverage to see whether an area has SRTM3 tiles. "
    ++ "Use srtm_elevation_point for a single elevation and "
    ++ "srtm_elevation_points for profiles or batches of [lon, lat] points. "
    ++ "Elevations are metres above the EGM96 geoid at ~90m spacing, "
    ++ "nearest sample, no interpolation. A null elevation means a data void. "
    ++ "Use srtm_tile_preview or srtm_tile_export to get the whole 1x1 degree "
    ++ "tile as a PNG or GeoTIFF artifact."

def Capabilities.offered : Capabilities :=
  { server := serverName
    version := serverVersion
    dataset := Dataset.facts
    partitions := Coverage.partitions
    previewStyles := Report.styleNames
    outputFormats := Dataset.outputFormats
    toolCount := Tool.list.length
    guidance := toolGuidance
    message := serverName ++ " v" ++ serverVersion ++ " capabilities" }

def PointElevation.ofPoint (place : Place Float) (point : Report.Point) : PointElevation :=
  { lon := place.lon
    lat := place.lat
    elevation := point.height.map Float.ofInt
    tile := point.tile
    void := point.height.isNone
    message :=
      match point.height with
      | none => Wording.pointNoData
      | some height =>
        Wording.fill Wording.pointElevation [Decimal.fixedText 1 (Float.ofInt height)] }

def PointInfo.ofHeight (point : List Float) (height : Option Int) : PointInfo :=
  ⟨point.getD 0 0, point.getD 1 0, height.map Float.ofInt⟩

def floatRange (range : Int × Int) : List Float := (Report.rangeNumbers range).map Float.ofInt

def MultiPoint.ofPoints (points : List (List Float)) (found : Report.Points) : MultiPoint :=
  { pointCount := points.length
    points := List.zipWith PointInfo.ofHeight points found.heights
    range := floatRange found.range
    voidCount := found.voidCount
    tiles := found.tiles
    message :=
      Wording.fill Wording.pointsElevation [toString points.length, toString found.voidCount] }

def TileDescription.ofInfo [Fields.Coercion] (info : Report.TileInfo) : Except Failure TileDescription :=
  let tile := info.tile
  match Fields.below "width" (Fields.Coercion.least leastWidth tile.width) with
  | .error issues =>
    .error (.raised (.ofName "ValidationError")
      (Fields.Coercion.complaint "TileInfoResponse" issues (.ofNat tile.width)))
  | .ok width =>
    .ok
      { tile := tile.name
        minLat := tile.cell.lat
        minLon := tile.cell.lon
        width := width
        bounds := tile.bounds.map Float.ofInt
        range := floatRange tile.heightRange
        voidSamples := tile.voidCount
        archiveUrl := info.archiveUrl
        archivePath := info.archivePath
        message := Wording.fill Wording.tileInfo [tile.name, toString tile.voidCount] }

def TileArtifact.ofStored (stored : Stored) : TileArtifact :=
  let artifact := stored.artifact
  { tile := artifact.tile.name
    reference := stored.reference
    format := artifact.format
    sizeBytes := artifact.content.size
    message :=
      if artifact.style.isSome then Wording.fill Wording.tilePreview [artifact.tile.name]
      else Wording.fill Wording.tileExport [artifact.tile.name, artifact.format] }

end Response

namespace Session

open Response

variable {σ β : Type}

def answered (toAnswer : β → Except Failure Answer)
    (outcome : Except Failure β × Session σ × World σ) :
    Except Failure Answer × Session σ × World σ :=
  (outcome.1.bind toAnswer, outcome.2)

def answer [Fields.Coercion] [Machine] (session : Session σ) (request : Request) (world : World σ) :
    Except Failure Answer × Session σ × World σ :=
  match request with
  | .partitions =>
    answered (.ok ∘ .partitions ∘ Partitions.ofCounts) (session.partitionCounts world)
  | .coverage box =>
    answered (.ok ∘ .coverage ∘ CoverageCheck.ofSurvey box) (session.checkCoverage box world)
  | .status => (.ok (.status (Status.ofSession session)), session, world)
  | .capabilities => (.ok (.capabilities .offered), session, world)
  | .point place =>
    answered (.ok ∘ .pointElevation ∘ PointElevation.ofPoint place) (session.queryPlace place world)
  | .points points =>
    answered (.ok ∘ .multiPoint ∘ MultiPoint.ofPoints points) (session.queryPoints points world)
  | .tileInfo place =>
    answered (fun info => (TileDescription.ofInfo info).map .tileDescription)
      (session.tileInfo place world)
  | .tilePreview place style =>
    answered (.ok ∘ .tileArtifact ∘ TileArtifact.ofStored) (session.previewTile place style world)
  | .tileExport place =>
    answered (.ok ∘ .tileArtifact ∘ TileArtifact.ofStored) (session.exportTile place world)

/-- The text of the answer to a call; a failure, also one in writing the answer, is answered by its
report. -/
def respond [Fields.Coercion] [Machine] (session : Session σ) (call : Call) (world : World σ) :
    String × Session σ × World σ :=
  let (answer, session, world) := session.answer call.request world
  let text :=
    match answer.bind (·.format call.mode) with
    | .ok text => text
    | .error failure => (ErrorReport.ofFailure failure).format call.mode
  (text, session, world)

end Session

end Elevation
