import Elevation.Settings
import Elevation.Report.Artifact
import Elevation.Report.Coverage

/-!
A session of queries.

The provider of a session is built from the settings of its environment when a query first needs
it; a request that is wrong in itself fails before that. Rendered and exported tiles are kept with
the references under which the artifact store has them.
-/
namespace Elevation

structure Stored where
  reference : String
  artifact : Report.Artifact

structure Session (σ : Type) where
  provider : Option (Provider σ)
  environment : Settings.Environment
  /-- The downloader that has a time-out in seconds. -/
  downloader : (timeout : Float) → Transfer.Downloader σ
  store : Report.Store
  /-- What the artifact with a number is called. -/
  label : Nat → String
  /-- What was stored so far, the latest first. -/
  stored : List Stored

namespace Session

variable {σ β : Type}

structure CacheCounts where
  tiles : Nat
  bound : Option Nat
  hits : Nat
  misses : Nat
  evictions : Nat
  deriving DecidableEq, Repr

/-- The counts of the cache; all are zero as long as there is no provider. -/
def cacheCounts (session : Session σ) : CacheCounts :=
  match session.provider with
  | none => ⟨0, none, 0, 0, 0⟩
  | some provider =>
    let cache := provider.cache
    ⟨cache.size, cache.bound, cache.hits, cache.misses, cache.evictions⟩

def nextReference (session : Session σ) (artifact : Report.Artifact) : String :=
  "srtm/" ++ session.label session.stored.length ++ artifact.suffix

variable [Fields.Coercion]

/-- The provider of a session, which is built if it is not there yet. -/
def ready (session : Session σ) (world : World σ) : Except Failure (Provider σ) × World σ :=
  match session.provider with
  | some provider => (.ok provider, world)
  | none =>
    match Settings.ofEnvironment world.homes session.environment with
    | .error failure => (.error failure, world)
    | .ok settings => Provider.ofSettings settings (session.downloader settings.timeout) world

def run (session : Session σ) (world : World σ)
    (query : Provider σ → World σ → Except Failure β × Provider σ × World σ) :
    Except Failure β × Session σ × World σ :=
  match session.ready world with
  | (.error failure, world) => (.error failure, session, world)
  | (.ok provider, world) =>
    let (result, provider, world) := query provider world
    (result, { session with provider := some provider }, world)

/-! ### Queries -/

def partitionCounts (session : Session σ) (world : World σ) :
    Except Failure (List (String × Nat)) × Session σ × World σ :=
  session.run world fun provider world => (.ok provider.index.partitionCounts, provider, world)

section

variable {α : Type} [Scalar α]

def checkCoverage (session : Session σ) (box : List α) (world : World σ) :
    Except Failure (Report.Survey α) × Session σ × World σ :=
  match Report.edges box with
  | .error failure => (.error failure, session, world)
  | .ok (west, south, east, north) =>
    session.run world fun provider world =>
      (Report.surveyEdges provider.index west south east north, provider, world)

variable [Machine]

def queryPlace (session : Session σ) (place : Place α) (world : World σ) :
    Except Failure Report.Point × Session σ × World σ :=
  session.run world fun provider world => Report.queryPlace provider place world

def queryPoints (session : Session σ) (points : List (List α)) (world : World σ) :
    Except Failure Report.Points × Session σ × World σ :=
  match Report.validPlaces points with
  | .error failure => (.error failure, session, world)
  | .ok places => session.run world fun provider world => Report.queryPlaces provider places world

def tileInfo (session : Session σ) (place : Place α) (world : World σ) :
    Except Failure Report.TileInfo × Session σ × World σ :=
  session.run world fun provider world => Report.tileInfo provider place world

/-! ### Artifacts -/

def storeTile (session : Session σ) (make : Tile → Except Failure Report.Artifact) (place : Place α)
    (world : World σ) : Except Failure Stored × Session σ × World σ :=
  let query := fun provider world => Report.storeTile make session.store provider place world
  match session.run world query with
  | (.error failure, session, world) => (.error failure, session, world)
  | (.ok artifact, session, world) =>
    let stored := ⟨session.nextReference artifact, artifact⟩
    (.ok stored, { session with stored := stored :: session.stored }, world)

def previewTile (session : Session σ) (place : Place α) (style : String) (world : World σ) :
    Except Failure Stored × Session σ × World σ :=
  match Report.Style.ofName style with
  | .error failure => (.error failure, session, world)
  | .ok style => session.storeTile (Report.render style) place world

def exportTile (session : Session σ) (place : Place α) (world : World σ) :
    Except Failure Stored × Session σ × World σ :=
  session.storeTile Report.exported place world

end

end Session

end Elevation
