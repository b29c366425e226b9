import Elevation.Command.Arguments
import Elevation.Decimal.Read
import Elevation.Settings

/-!
The command that prints the elevation at a place.

It prints the elevation in metres, or `nan` where the data have a void. A look-up that fails ends
with 1 and a line in the log, wrong arguments end with 2.
-/
namespace Elevation.Command

structure Query where
  lat : Option Float
  lon : Option Float
  /-- The directory of archives, in place of the one that the settings name. -/
  directory : Option String
  isVerbose : Bool

namespace Query

def program : String := "chuk-mcp-srtm-query"

def readDegrees : Option String → Except String (Option Float) :=
  convertedIfGiven "float" Decimal.argumentFloat?

def readLat (value : Option String) (query : Query) : Except String Query :=
  (readDegrees value).map fun lat => { query with lat := lat }

def readLon (value : Option String) (query : Query) : Except String Query :=
  (readDegrees value).map fun lon => { query with lon := lon }

/-- An empty name stands for the directory that the settings name, and so does no name. -/
def readDirectory (value : Option String) (query : Query) : Except String Query :=
  .ok { query with directory := value.filter fun name => !name.isEmpty }

def grammar : Grammar Query :=
  { program := program
    usage := "usage: " ++ program ++ " [-h] [--cache-dir CACHE_DIR] [-v] lat lon"
    manual :=
      ["Print the SRTM3 ground elevation at a coordinate", "",
        "positional arguments:",
        "  lat                   Latitude in decimal degrees",
        "  lon                   Longitude in decimal degrees", "",
        "options:",
        "  -h, --help            show this help message and exit",
        "  --cache-dir CACHE_DIR",
        "                        Archive cache directory (overrides SRTM_CACHE_DIR)",
        "  -v, --verbose         Log downloads and decodes"]
    flags :=
      [⟨["-h", "--help"], .help⟩, ⟨["--cache-dir"], .value readDirectory⟩,
        ⟨["-v", "--verbose"], .mark fun query => { query with isVerbose := true }⟩]
    positionals := [⟨"lat", true, readLat⟩, ⟨"lon", true, readLon⟩]
    start := ⟨none, none, none, false⟩ }

/-- The place that is asked for. A latitude out of bounds is told before a longitude that is not
there. -/
def place (query : Query) : Except Failure (Place Float) :=
  match query.lat, query.lon with
  | some lat, some lon => .ok ⟨lat, lon⟩
  | some lat, none =>
    match Place.validate ⟨lat, 0⟩ with
    | .error failure => .error failure
    | .ok () => .error .listForNumber
  | none, _ => .error .listForNumber

def log : String := "chuk_mcp_srtm.cli"

section

variable {σ : Type}

def settle (query : Query) (provider : Provider σ) (world : World σ) :
    Except Failure (Provider σ) × World σ :=
  match query.directory with
  | none => (.ok provider, world)
  | some directory =>
    let (moved, provider, world) := provider.setDirectory (.ofText directory) world
    (moved.map fun _ => provider, world)

def lookup [Fields.Coercion] [Machine] (query : Query) (environment : Settings.Environment)
    (downloader : Float → Transfer.Downloader σ) (world : World σ) :
    Except Failure Float × World σ :=
  match Settings.ofEnvironment world.homes environment with
  | .error failure => (.error failure, world)
  | .ok settings =>
    match Provider.ofSettings settings (downloader settings.timeout) world with
    | (.error failure, world) => (.error failure, world)
    | (.ok provider, world) =>
      match query.settle provider world with
      | (.error failure, world) => (.error failure, world)
      | (.ok provider, world) =>
        match query.place with
        | .error failure => (.error failure, world)
        | .ok place =>
          let (elevation, _, world) := provider.elevationAt place world
          (elevation, world)

def expected : List String := ["SRTMError", "ValueError"]

structure Ending where
  code : Nat
  output : String
  deriving DecidableEq, Repr

/-- Answers a query. A failure of a kind that is not expected is passed on. -/
def run [Fields.Coercion] [Machine] (query : Query) (environment : Settings.Environment)
    (downloader : Float → Transfer.Downloader σ) (world : World σ) :
    Except Failure Ending × World σ :=
  match query.lookup environment downloader world with
  | (.ok elevation, world) => (.ok ⟨0, Decimal.floatText elevation ++ "\n"⟩, world)
  | (.error failure, world) =>
    if expected.any failure.lineage.isA then
      (.ok ⟨1, ""⟩, world.note .error log ("Elevation lookup failed: " ++ failure.message))
    else (.error failure, world)

def shows (query : Query) (note : Note) : Bool := query.isVerbose || note.level ≠ .info

def shownNotes (query : Query) (world : World σ) : List Note :=
  (world.log.filter query.shows).reverse

end

end Query

end Elevation.Command
