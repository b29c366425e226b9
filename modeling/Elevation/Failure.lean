import Elevation.Archive.Fault
import Elevation.Disk.Path
import Elevation.Scalar
import Elevation.Wording

/-!
Everything that can go wrong, by cause.

A failure carries what it speaks about; `message` words it and `kind` names the class under which
it is reported. Numbers are kept in the spelling in which they are shown. What a library raises comes
with the classes that its own class is derived from, so that it is known by any of them.
-/
namespace Elevation

/-- A class of failures by its name, with the names of all classes that it is derived from. A name stands
for one class: where two share one, it is written with the module that one of them comes from. -/
structure Lineage where
  name : String
  above : List String
  deriving DecidableEq, Repr

namespace Lineage

def isA (lineage : Lineage) (root : String) : Bool :=
  lineage.name = root || lineage.above.contains root

def ofTransport : List String := ["TransportError", "RequestError", "HTTPError", "Exception"]

/-- The lineage of a class of this program, of its runtime or of the web library. Classes of other
libraries come with a lineage of their own. -/
def ofName (name : String) : Lineage :=
  ⟨name,
    match name with
    | "ConfigurationError" | "RetrievalError" | "DecodeError" =>
      ["SRTMError", "RuntimeError", "Exception"]
    | "AreaNotFound" => ["SRTMError", "RuntimeError", "LookupError", "Exception"]
    | "NotImplementedError" => ["RuntimeError", "Exception"]
    | "UnicodeDecodeError" | "UnicodeEncodeError" => ["UnicodeError", "ValueError", "Exception"]
    | "ValidationError" => ["ValueError", "Exception"]
    | "OverflowError" | "ZeroDivisionError" => ["ArithmeticError", "Exception"]
    | "KeyError" => ["LookupError", "Exception"]
    | "ConnectionError" | "TimeoutError" | "FileNotFoundError" | "FileExistsError"
    | "IsADirectoryError" | "NotADirectoryError" | "PermissionError" => ["OSError", "Exception"]
    | "BrokenPipeError" | "ConnectionAbortedError" | "ConnectionRefusedError"
    | "ConnectionResetError" => ["ConnectionError", "OSError", "Exception"]
    | "ConnectTimeout" | "ReadTimeout" | "WriteTimeout" | "PoolTimeout" =>
      "TimeoutException" :: ofTransport
    | "ConnectError" | "ReadError" | "WriteError" | "CloseError" => "NetworkError" :: ofTransport
    | "LocalProtocolError" | "RemoteProtocolError" => "ProtocolError" :: ofTransport
    | "TimeoutException" | "NetworkError" | "ProtocolError" | "ProxyError"
    | "UnsupportedProtocol" => ofTransport
    | "TransportError" | "DecodingError" | "TooManyRedirects" =>
      ["RequestError", "HTTPError", "Exception"]
    | "RequestError" | "HTTPStatusError" => ["HTTPError", "Exception"]
    | _ => ["Exception"]⟩

end Lineage

inductive Failure where
  -- Coordinates
  | latitudeOutside (shown : String)
  | longitudeOutside (shown : String)
  | noInteger (reason : NoInteger)
  -- The index of areas
  | malformedCode (code source : String)
  | duplicateArea (key : Int) (existing added : String)
  | missingListing (partition : String)
  | unreadableListing (partition detail : String)
  | areaNotFound (key : Int) (lat lon : String)
  -- Archives and tiles
  | archive (fault : Archive.Fault)
  | unreadableArchive (path : String) (fault : Archive.Fault)
  | emptyArchive (path : String)
  | shortArchive (path : String) (filled expected : Nat)
  | longArchive (path : String) (expected : Nat)
  /-- A tile of more bytes than can be counted. -/
  | tileUncountable
  /-- A tile of more bytes than can be set aside. -/
  | tileTooLarge
  | wrongShape (width : Int) (shape : List Nat)
  | raggedShape (shape : List Nat)
  | tooManyAxes (limit : Nat)
  | unknownSizes
  | emptyAxis (axis : Nat)
  | angleDomain
  | sampleRange (value : Int)
  | sampleTooLarge
  | outsideTile (lat lon tile : String)
  | zeroSpacing
  | quotientTooLarge
  | integerTooLarge
  | emptyRaster
  | emptyPicture
  -- The store of tiles and of archives
  | cacheBound (bound : Int)
  | cacheNotDirectory (path : String)
  | cacheNotCreatable (path : String) (refusal : Disk.Refusal)
  | homeless (fault : Disk.HomeFault)
  | refused (refusal : Disk.Refusal)
  -- Transfers
  | retrieval (url : String) (cause : Failure)
  | nothingWritten (path : String)
  /-- What a library raises. -/
  | raised (lineage : Lineage) (text : String)
  | listForNumber
  -- Settings and requests
  | invalidSetting (raw setting reason : String)
  | boxMembers
  | boxLongitudes (west east : String)
  | boxLatitudes (south north : String)
  | endlessBox
  | noPoints
  | tooManyPoints (count limit : Nat)
  | invalidPoint (shown : String)
  | previewStyle (style : String) (available : List String)
  | noStore
  | rangeMembers (count : Nat)
  deriving Repr

/-- A list of sizes between round brackets, a lone size being followed by a comma. -/
def shapeText : List Nat → String
  | [] => "()"
  | [size] => "(" ++ toString size ++ ",)"
  | sizes => "(" ++ String.intercalate ", " (sizes.map toString) ++ ")"

namespace Failure

def message : Failure → String
  | latitudeOutside shown => Wording.fill Wording.invalidLatitude [shown]
  | longitudeOutside shown => Wording.fill Wording.invalidLongitude [shown]
  | noInteger reason => reason.message
  | malformedCode code source => Wording.fill Wording.malformedAreaCode [code, source]
  | duplicateArea key existing added =>
    Wording.fill Wording.duplicateArea [toString key, existing, added]
  | missingListing partition => Wording.fill Wording.missingAreaResource [partition]
  | unreadableListing partition detail =>
    Wording.fill Wording.unreadableAreaResource [partition, detail]
  | areaNotFound key lat lon => Wording.fill Wording.areaNotFound [toString key, lat, lon]
  | archive fault => fault.message
  | unreadableArchive path fault => Wording.fill Wording.archiveUnreadable [path, fault.message]
  | emptyArchive path => Wording.fill Wording.archiveEmpty [path]
  | shortArchive path filled expected =>
    Wording.fill Wording.archiveShortRead [path, toString filled, toString expected]
  | longArchive path expected => Wording.fill Wording.archiveTooLong [path, toString expected]
  | tileUncountable => "cannot fit 'int' into an index-sized integer"
  | tileTooLarge => ""
  | wrongShape width shape =>
    "Expected " ++ toString width ++ "x" ++ toString width ++ " heights, got shape "
      ++ shapeText shape
  | raggedShape shape =>
    "setting an array element with a sequence. The requested array has an inhomogeneous shape "
      ++ "after " ++ toString shape.length ++ " dimensions. The detected shape was "
      ++ shapeText shape ++ " + inhomogeneous part."
  | tooManyAxes limit =>
    "setting an array element with a sequence. The requested array would exceed the maximum "
      ++ "number of dimension of " ++ toString limit ++ "."
  | unknownSizes => "can only specify one unknown dimension"
  | emptyAxis axis =>
    "can't extend empty axis " ++ toString axis ++ " using modes other than 'constant' or 'empty'"
  | angleDomain => "math domain error"
  | sampleRange value => "Python integer " ++ toString value ++ " out of bounds for int16"
  | sampleTooLarge => "Python int too large to convert to C long"
  | outsideTile lat lon tile => Wording.fill Wording.outsideTile [lat, lon, tile]
  | zeroSpacing => "float division by zero"
  | quotientTooLarge => "integer division result too large for a float"
  | integerTooLarge => "int too large to convert to float"
  | emptyRaster =>
    "Attempt to create 0x0 dataset is illegal,sizes must be larger than zero."
  | emptyPicture => "cannot write empty image"
  | cacheBound bound => "max_tiles must be >= 1 or None, got " ++ toString bound
  | cacheNotDirectory path => Wording.fill Wording.cacheDirNotDirectory [path]
  | cacheNotCreatable path refusal =>
    Wording.fill Wording.cacheDirNotCreatable [path, refusal.message]
  | homeless fault => fault.message
  | refused refusal => refusal.message
  | retrieval url cause => Wording.fill Wording.downloadFailed [url, cause.message]
  | nothingWritten path => "downloader wrote nothing to " ++ path
  | raised lineage text => if lineage.isA "KeyError" then Text.quoted text else text
  | listForNumber => "must be real number, not list"
  | invalidSetting raw setting reason =>
    Wording.fill Wording.invalidSetting [raw, setting, reason]
  | boxMembers => Wording.invalidBbox
  | boxLongitudes west east => Wording.fill Wording.invalidBboxValues [west, east]
  | boxLatitudes south north => Wording.fill Wording.invalidBboxLat [south, north]
  | endlessBox => "the bounding box has no northern end"
  | noPoints => Wording.noPoints
  | tooManyPoints count limit =>
    Wording.fill Wording.tooManyPoints [toString count, toString limit]
  | invalidPoint shown => Wording.fill Wording.invalidPoint [shown]
  | previewStyle style available =>
    Wording.fill Wording.invalidPreviewStyle [style, String.intercalate ", " available]
  | noStore => Wording.noArtifactStore
  | rangeMembers count =>
    if count < 2 then
      "not enough values to unpack (expected 2, got " ++ toString count ++ ")"
    else "too many values to unpack (expected 2)"

def kind : Failure → String
  | latitudeOutside _ | longitudeOutside _ | wrongShape .. | raggedShape _ | tooManyAxes _
  | unknownSizes | emptyPicture
  | emptyAxis _ | angleDomain | outsideTile .. | cacheBound _ | boxMembers | boxLongitudes ..
  | boxLatitudes .. | endlessBox | noPoints | tooManyPoints .. | invalidPoint _ | previewStyle ..
  | rangeMembers _ => "ValueError"
  | noInteger .nan => "ValueError"
  | noInteger .infinite | sampleRange _ | sampleTooLarge | quotientTooLarge | integerTooLarge
  | tileUncountable => "OverflowError"
  | tileTooLarge => "MemoryError"
  | emptyRaster => "RasterioIOError"
  | malformedCode .. | duplicateArea .. | missingListing _ | unreadableListing ..
  | cacheNotDirectory _ | cacheNotCreatable .. | invalidSetting .. => "ConfigurationError"
  | areaNotFound .. => "AreaNotFound"
  | archive fault => fault.kind
  | unreadableArchive .. | emptyArchive _ | shortArchive .. | longArchive .. => "DecodeError"
  | zeroSpacing => "ZeroDivisionError"
  | homeless fault => fault.kind
  | noStore => "RuntimeError"
  | refused refusal => refusal.fault.kind
  | retrieval .. => "RetrievalError"
  | nothingWritten _ => "FileNotFoundError"
  | raised lineage _ => lineage.name
  | listForNumber => "TypeError"

/-- The class under which a failure is reported, with all classes above it. -/
def lineage : Failure → Lineage
  | raised lineage _ => lineage
  | failure => .ofName failure.kind

end Failure

end Elevation
