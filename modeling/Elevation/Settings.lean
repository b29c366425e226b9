import Elevation.Fields.Checked
import Elevation.Provider.Basic

/-!
Settings of the tile pipeline, and the provider that they describe.

Settings come from environment variables or from structured data. A setting that is left out has a
default; an empty variable counts as left out. Paths may start with the home directory, a trailing
slash of the base address does not matter, and a bound of zero tiles means no bound.
-/
namespace Elevation

structure Settings where
  directory : Disk.Path
  baseUrl : String
  maxTiles : Option Int
  namesDirectory : Option Disk.Path
  timeout : Float

namespace Settings

open Fields

def defaultMaxTiles : Int := 64

def memberNames : List String :=
  ["cache_dir", "base_url", "cache_max_tiles", "area_names_dir", "download_timeout_s"]

/-- The environment variables that the members come from, in the same order. -/
def variableNames : List String :=
  ["SRTM_CACHE_DIR", "SRTM_BASE_URL", "SRTM_CACHE_MAX_TILES", "SRTM_AREA_NAMES_DIR",
    "SRTM_DOWNLOAD_TIMEOUT"]

def isWebAddress (url : String) : Bool :=
  Text.startsWith "http://".toList url.toList || Text.startsWith "https://".toList url.toList

def withoutTrailingSlashes (url : String) : String :=
  String.ofList (Disk.Path.dropTrailing '/' url.toList)

section

variable [Coercion]

/-- A path with its home directory put in. One whose home directory is not known is a failure of its
own, whatever else is wrong. -/
def pathOf (homes : Disk.Homes) (value : Json) : Except Failure (Checked Disk.Path) :=
  match path value with
  | .error issues => .ok (.error issues)
  | .ok text =>
    match (Disk.Path.ofText text).expandHome homes with
    | .ok path => .ok (.ok path)
    | .error .nullInName => .ok (.error [rejection Disk.HomeFault.nullInName.message])
    | .error .unknown => .error (.homeless .unknown)

def pathIfGiven (homes : Disk.Homes) : Json → Except Failure (Checked (Option Disk.Path))
  | .null => .ok (.ok none)
  | value => (pathOf homes value).map fun path => path.map some

def baseUrlOf (value : Json) : Checked String :=
  match string value with
  | .error issues => .error issues
  | .ok url =>
    if isWebAddress url then .ok (withoutTrailingSlashes url)
    else .error [rejection "must be an http(s) URL"]

/-- A bound on the number of tiles; zero means none. -/
def boundOf (bound : Option Int) : Checked (Option Int) :=
  match bound with
  | none => .ok none
  | some bound =>
    if bound = 0 then .ok none
    else if bound < 0 then .error [rejection "must be >= 0"]
    else .ok (some bound)

def maxTilesOf (value : Json) : Checked (Option Int) :=
  match nullable int value with
  | .error issues => .error issues
  | .ok bound => boundOf bound

end

/-- A member as it came, or its default, which is checked like any other value. -/
def memberOf (members : Members) (name : String) (default : Json) : Json :=
  (members.lookup name).getD default

def ofMembers [Coercion] (homes : Disk.Homes) (members : Members) : Except Failure (Checked Settings) :=
  match pathOf homes (memberOf members "cache_dir" (.string Provider.defaultDirectory)),
    pathIfGiven homes (memberOf members "area_names_dir" .null) with
  | .error failure, _ | .ok _, .error failure => .error failure
  | .ok directory, .ok namesDirectory =>
    .ok <| closed members memberNames <|
      ap (ap (ap (ap (ap (.ok mk)
        (below "cache_dir" directory))
        (below "base_url" (baseUrlOf (memberOf members "base_url" (.string Provider.defaultBaseUrl)))))
        (below "cache_max_tiles"
          (maxTilesOf (memberOf members "cache_max_tiles" (.int defaultMaxTiles)))))
        (below "area_names_dir" namesDirectory))
        (below "download_timeout_s" (positive float
          (memberOf members "download_timeout_s" (.float Transfer.defaultTimeout))))

abbrev Environment := List (String × String)

def setting? (environment : Environment) (name : String) : Option String :=
  match environment.lookup name with
  | some value => if value.isEmpty then none else some value
  | none => none

/-- Home directories while an environment is in force: it may move one's own. -/
def homesOf (accounts : Disk.Homes) (environment : Environment) : Disk.Homes := fun user =>
  if user.isEmpty then (environment.lookup "HOME").or (accounts user) else accounts user

def membersOf (environment : Environment) : Members :=
  (memberNames.zip variableNames).filterMap fun (member, variableName) =>
    (setting? environment variableName).map fun value => (member, .string value)

def failureOf (environment : Environment) (issues : List Issue) : Failure :=
  match issues with
  | [] => .invalidSetting "None" "settings" ""
  | issue :: _ =>
    let member := issue.path.headD "settings"
    let variableName := ((memberNames.zip variableNames).lookup member).getD member
    .invalidSetting ((setting? environment variableName).getD "None") variableName issue.message

def ofEnvironment [Coercion] (homes : Disk.Homes) (environment : Environment) :
    Except Failure Settings :=
  match ofMembers homes (membersOf environment) with
  | .error failure => .error failure
  | .ok (.ok settings) => .ok settings
  | .ok (.error issues) => .error (failureOf environment issues)

end Settings

/-! ### Providers from settings -/

def Coverage.Listing.log : String := "chuk_mcp_srtm.core.area_index"

def Coverage.Listing.announce {σ : Type} (directory : Option Disk.Path) (world : World σ) :
    Except Failure Coverage.Index × World σ :=
  match Coverage.Listing.load world.disk world.homes world.bundled directory with
  | .error failure => (.error failure, world)
  | .ok index =>
    let source := (directory.map Disk.Path.text).getD "bundled resources"
    (.ok index, world.note .info Coverage.Listing.log
      ("Loaded area index: " ++ toString index.size ++ " tiles from " ++ source))

def Provider.ofSettings {σ : Type} (settings : Settings) (downloader : Transfer.Downloader σ)
    (world : World σ) : Except Failure (Provider σ) × World σ :=
  match Coverage.Listing.announce settings.namesDirectory world with
  | (.error failure, world) => (.error failure, world)
  | (.ok index, world) =>
    match Cache.create settings.maxTiles with
    | .error failure => (.error failure, world)
    | .ok cache =>
      Provider.create index settings.directory downloader cache settings.baseUrl
        Provider.defaultWidth world

end Elevation
