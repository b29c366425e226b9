import Elevation.Cache.Basic
import Elevation.Coverage.Listing
import Elevation.Tile.Basic
import Elevation.Transfer.Client

/-!
Answering point queries.

A provider knows which partition holds a cell, fetches the archive of a cell once into its
directory, decodes it into a tile and keeps tiles in its cache. A transfer writes to a partial file
that becomes the archive only when the transfer has succeeded. Everything outside the provider,
files and the far side of transfers, is the world that operations take and give back.
-/
namespace Elevation

inductive Level where
  | info
  | warning
  | error
  deriving DecidableEq, Repr

def Level.text : Level → String
  | .info => "INFO"
  | .warning => "WARNING"
  | .error => "ERROR"

structure Note where
  level : Level
  source : String
  text : String
  deriving Repr

/-- What lies outside a provider: files, home directories, the files that were installed with the
program, the far side of transfers, and the log with its latest line first. -/
structure World (σ : Type) where
  disk : Disk.Tree
  homes : Disk.Homes
  bundled : String → Except Disk.Refusal ByteArray
  far : σ
  log : List Note

def World.note {σ : Type} (world : World σ) (level : Level) (source text : String) : World σ :=
  { world with log := ⟨level, source, text⟩ :: world.log }

structure Provider (σ : Type) where
  index : Coverage.Index
  baseUrl : String
  width : Int
  directory : Disk.Path
  downloader : Transfer.Downloader σ
  cache : Cache Tile

namespace Provider

def defaultBaseUrl : String := "http://dds.cr.usgs.gov/srtm/version2_1/SRTM3"

def defaultDirectory : String := "~/.cache/chuk-mcp-srtm"

def defaultWidth : Int := 1201

def archiveSuffix : String := ".hgt.zip"

def partialSuffix : String := ".part"

def fetchLog : String := "chuk_mcp_srtm.core.tile_fetcher"

variable {σ : Type}

/-! ### The directory of archives -/

def prepareDirectory (world : World σ) (path : Disk.Path) : Except Failure Disk.Path × World σ :=
  match path.expandHome world.homes with
  | .error fault => (.error (.homeless fault), world)
  | .ok path =>
    match world.disk.exists? path with
    | .error refusal => (.error (.refused refusal), world)
    | .ok present =>
      if present && !world.disk.isDirectory path then
        (.error (.cacheNotDirectory path.text), world)
      else
        let (made, disk) := world.disk.makeDirectories path
        let failure (refusal : Disk.Refusal) : Failure :=
          if refusal.isNumbered then .cacheNotCreatable path.text refusal else .refused refusal
        ((made.map fun () => path).mapError failure, { world with disk := disk })

def create (index : Coverage.Index) (directory : Disk.Path) (downloader : Transfer.Downloader σ)
    (cache : Cache Tile) (baseUrl : String) (width : Int) (world : World σ) :
    Except Failure (Provider σ) × World σ :=
  match prepareDirectory world directory with
  | (.error failure, world) => (.error failure, world)
  | (.ok directory, world) =>
    let base := String.ofList (Disk.Path.dropTrailing '/' baseUrl.toList)
    (.ok ⟨index, base, width, directory, downloader, cache⟩, world)

/-- Moves on to another directory; the provider stays as it is when that cannot be had. -/
def setDirectory (provider : Provider σ) (directory : Disk.Path) (world : World σ) :
    Except Failure Unit × Provider σ × World σ :=
  match prepareDirectory world directory with
  | (.error failure, world) => (.error failure, provider, world)
  | (.ok directory, world) => (.ok (), { provider with directory := directory }, world)

def setDownloader (provider : Provider σ) (downloader : Transfer.Downloader σ) : Provider σ :=
  { provider with downloader := downloader }

def clear (provider : Provider σ) : Provider σ := { provider with cache := provider.cache.clear }

def byteSize (cache : Cache Tile) : Nat :=
  cache.entries.foldl (fun total entry => total + entry.2.byteSize) 0

/-! ### Archives -/

def lastSegment (text : String) : String :=
  String.ofList (text.toList.reverse.takeWhile (· ≠ '/')).reverse

section

variable {α : Type} [Scalar α]

def archiveUrl (provider : Provider σ) (place : Place α) : Except Failure String :=
  (provider.index.qualifiedName place).map fun name =>
    provider.baseUrl ++ "/" ++ name ++ archiveSuffix

def pathOf (provider : Provider σ) (url : String) : Disk.Path :=
  provider.directory.child (lastSegment url)

def archivePath (provider : Provider σ) (place : Place α) : Except Failure Disk.Path :=
  (provider.archiveUrl place).map provider.pathOf

end

def partialOf (path : Disk.Path) : Disk.Path := path.withName (path.name ++ partialSuffix)

def deposit (disk : Disk.Tree) (path : Disk.Path) (content : Option ByteArray) : Disk.Tree :=
  match content with
  | none => disk
  | some bytes =>
    match disk.write path bytes with
    | .ok disk => disk
    | .error _ => disk

/-- Makes the partial file the archive, if the transfer succeeded and wrote one. -/
def publish (disk : Disk.Tree) (part path : Disk.Path) (result : Except Failure Unit) :
    Except Failure Disk.Tree :=
  match result with
  | .error failure => .error failure
  | .ok () =>
    match disk.exists? part with
    | .error refusal => .error (.refused refusal)
    | .ok false => .error (.nothingWritten part.text)
    | .ok true => (disk.rename part path).mapError .refused

def abandon (world : World σ) (part : Disk.Path) (url : String) (failure : Failure) :
    Except Failure Disk.Path × World σ :=
  match world.disk.remove part with
  | .error refusal => (.error (.refused refusal), world)
  | .ok disk => (.error (.retrieval url failure), { world with disk := disk })

def kibibytes (disk : Disk.Tree) (path : Disk.Path) : String :=
  let size :=
    match disk.stat path with
    | .ok (.file bytes) => bytes.size
    | _ => 4096
  Decimal.fixedText 0 (Float.ofNat size / 1024.0)

def download (provider : Provider σ) (url : String) (path : Disk.Path) (world : World σ) :
    Except Failure Disk.Path × World σ :=
  let part := partialOf path
  let world := world.note .info fetchLog ("Downloading " ++ url ++ " -> " ++ path.text)
  let place := (world.disk.writable part).map fun _ => ()
  let (delivery, far) := provider.downloader url place world.far
  let world := { world with disk := deposit world.disk part delivery.content, far := far }
  match publish world.disk part path delivery.result with
  | .error failure => abandon world part url failure
  | .ok disk =>
    (.ok path, { world with disk := disk }.note .info fetchLog
      ("Downloaded " ++ path.name ++ " (" ++ kibibytes disk path ++ " KB)"))

section

variable {α : Type} [Scalar α]

/-- The archive of the cell of a place; an archive that is there is taken as it is. -/
def ensureArchive (provider : Provider σ) (place : Place α) (world : World σ) :
    Except Failure Disk.Path × World σ :=
  match provider.archiveUrl place with
  | .error failure => (.error failure, world)
  | .ok url =>
    let path := provider.pathOf url
    match world.disk.exists? path with
    | .error refusal => (.error (.refused refusal), world)
    | .ok true => (.ok path, world)
    | .ok false => provider.download url path world

variable [Machine]

def materialize (provider : Provider σ) (place : Place α) (world : World σ) :
    Except Failure (Array Int) × World σ :=
  match provider.ensureArchive place world with
  | (.error failure, world) => (.error failure, world)
  | (.ok path, world) =>
    match Tile.decode path.text (world.disk.read path) provider.width with
    | .error failure => (.error failure, world)
    | .ok (samples, voids) =>
      let world :=
        if voids = 0 then world
        else world.note .warning fetchLog (path.name ++ ": " ++ toString voids ++ " void samples")
      (.ok samples, world.note .info fetchLog ("Decoded " ++ path.name))

/-! ### Tiles -/

def loadTile (provider : Provider σ) (place : Place α) (world : World σ) :
    Except Failure Tile × World σ :=
  match place.cell with
  | .error failure => (.error failure, world)
  | .ok cell =>
    match provider.materialize place world with
    | (.error failure, world) => (.error failure, world)
    | (.ok samples, world) =>
      (Tile.ofSamples cell provider.width samples, world)

def tileAt (provider : Provider σ) (place : Place α) (world : World σ) :
    Except Failure Tile × Provider σ × World σ :=
  match place.validate with
  | .error failure => (.error failure, provider, world)
  | .ok () =>
    match place.key with
    | .error failure => (.error failure, provider, world)
    | .ok key =>
      let load : Cache.Load Tile Failure (World σ) := fun cache world =>
        let (tile, world) := provider.loadTile place world
        (tile, cache, world)
      let (tile, cache, world) := provider.cache.getOrLoad key load world
      (tile, { provider with cache := cache }, world)

/-- The height at the sample nearest to a place; none where that sample is void. -/
def heightAt (provider : Provider σ) (place : Place α) (world : World σ) :
    Except Failure (Option Int) × Provider σ × World σ :=
  match provider.tileAt place world with
  | (.error failure, provider, world) => (.error failure, provider, world)
  | (.ok tile, provider, world) => (tile.heightAt place, provider, world)

def heightsAt (provider : Provider σ) : List (Place α) → World σ →
    Except Failure (List (Option Int)) × Provider σ × World σ
  | [], world => (.ok [], provider, world)
  | place :: rest, world =>
    match provider.heightAt place world with
    | (.error failure, provider, world) => (.error failure, provider, world)
    | (.ok height, provider, world) =>
      match provider.heightsAt rest world with
      | (.error failure, provider, world) => (.error failure, provider, world)
      | (.ok heights, provider, world) => (.ok (height :: heights), provider, world)

end

/-- A height as a floating-point number; a void is no number. -/
def elevation : Option Int → Float
  | some height => Float.ofInt height
  | none => 0.0 / 0.0

section

variable {α : Type} [Scalar α] [Machine]

def elevationAt (provider : Provider σ) (place : Place α) (world : World σ) :
    Except Failure Float × Provider σ × World σ :=
  let (height, provider, world) := provider.heightAt place world
  (height.map elevation, provider, world)

def elevationsAt (provider : Provider σ) : List (Place α) → World σ →
    Except Failure (List Float) × Provider σ × World σ
  | [], world => (.ok [], provider, world)
  | place :: rest, world =>
    match provider.elevationAt place world with
    | (.error failure, provider, world) => (.error failure, provider, world)
    | (.ok height, provider, world) =>
      match provider.elevationsAt rest world with
      | (.error failure, provider, world) => (.error failure, provider, world)
      | (.ok heights, provider, world) => (.ok (height :: heights), provider, world)

end

end Provider

end Elevation
