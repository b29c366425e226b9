import Elevation.Cache.Loading
import Elevation.Provider.Basic

/-!
A provider that is asked for tiles by several threads at once.

The threads share the cache and the directory. A load is a sequence of steps: to search for the
archive, to call the downloader, each change that the downloader makes, its return, the look whether
it has written anything, to publish the partial file or to remove it, and to decode the archive.
Between any two of them other threads take steps of their own. The downloader is not trusted: it puts
what it likes in the place of the partial file, returns whenever it likes and with any result, and
meanwhile its thread may ask the provider for further tiles.
-/
namespace Elevation.Provider.Threads

open Cache.Loading (Thread Phase setAt)

inductive Fetch where
  | due
  | running
  | returned
  | written
  | failing (failure : Failure)

inductive Stage where
  | searching
  | fetching (url : String) (fetch : Fetch)
  | stored (url : String)
  | done (result : Except Failure Tile)

/-- A step of a load. What the downloader does is up to the downloader. -/
inductive Work where
  | search
  | begin
  | write (next : Disk.Tree)
  | finish (result : Except Failure Unit)
  | check
  | publish
  | abandon
  | decode

variable {σ α : Type} [Scalar α]

/-! ### One load -/

def rowsBeside (disk : Disk.Tree) (spot : Disk.Place) : List (Disk.Place × Disk.Node) :=
  disk.nodes.filter fun row => !spot.isPrefixOf row.1

/-- Whether two trees differ at a place and below it at most. -/
def isBeside (disk next : Disk.Tree) (spot : Disk.Place) : Bool :=
  next.here = disk.here && rowsBeside next spot = rowsBeside disk spot

def partOf (provider : Provider σ) (url : String) : Disk.Path := partialOf (provider.pathOf url)

def search (provider : Provider σ) (place : Place α) (disk : Disk.Tree) : Stage :=
  match place.cell, provider.archiveUrl place with
  | .error failure, _ => .done (.error failure)
  | _, .error failure => .done (.error failure)
  | .ok _, .ok url =>
    match disk.exists? (provider.pathOf url) with
    | .error refusal => .done (.error (.refused refusal))
    | .ok true => .stored url
    | .ok false => .fetching url .due

def check (provider : Provider σ) (url : String) (disk : Disk.Tree) : Fetch :=
  match disk.exists? (partOf provider url) with
  | .error refusal => .failing (.refused refusal)
  | .ok false => .failing (.nothingWritten (partOf provider url).text)
  | .ok true => .written

def decode [Machine] (provider : Provider σ) (place : Place α) (url : String) (disk : Disk.Tree) :
    Except Failure Tile :=
  let path := provider.pathOf url
  (Tile.decode path.text (disk.read path) provider.width).bind fun samples =>
    place.cell.bind fun cell => Tile.ofSamples cell provider.width samples.1

def advance? [Machine] (provider : Provider σ) (place : Place α) :
    Work → Stage → Disk.Tree → Option (Stage × Disk.Tree)
  | .search, .searching, disk => some (search provider place disk, disk)
  | .begin, .fetching url .due, disk => some (.fetching url .running, disk)
  | .write next, .fetching url .running, disk =>
    match disk.locate (partOf provider url) with
    | .error _ => none
    | .ok spot => if isBeside disk next spot then some (.fetching url .running, next) else none
  | .finish result, .fetching url .running, disk =>
    match result with
    | .error failure => some (.fetching url (.failing failure), disk)
    | .ok () => some (.fetching url .returned, disk)
  | .check, .fetching url .returned, disk => some (.fetching url (check provider url disk), disk)
  | .publish, .fetching url .written, disk =>
    match disk.rename (partOf provider url) (provider.pathOf url) with
    | .error refusal => some (.fetching url (.failing (.refused refusal)), disk)
    | .ok next => some (.stored url, next)
  | .abandon, .fetching url (.failing failure), disk =>
    match disk.remove (partOf provider url) with
    | .error refusal => some (.done (.error (.refused refusal)), disk)
    | .ok next => some (.done (.error (.retrieval url failure)), next)
  | .decode, .stored url, disk => some (.done (decode provider place url disk), disk)
  | _, _, _ => none

/-! ### All threads -/

structure Job (α : Type) where
  place : Place α
  stage : Stage

structure State (α : Type) where
  loading : Cache.Loading.State Tile Failure
  disk : Disk.Tree
  /-- The loads of each thread, one for each of its calls on the cache, the innermost one first. -/
  jobs : Thread → List (Job α)

inductive Event (α : Type) where
  | ask (place : Place α)
  | clear
  | pass
  | work (work : Work)

/-- Whether a thread with these loads can turn to the provider: it has none, or its downloader runs. -/
def isFree : List (Job α) → Bool
  | [] | ⟨_, .fetching _ .running⟩ :: _ => true
  | _ => false

/-- The next step of a call on the cache; during the load there is none until the load is done. -/
def passage : Phase Tile Failure → Stage → Option (Cache.Loading.Step Tile Failure)
  | .waiting, _ => some .enter
  | .looking, _ => some .look
  | .missed, _ => some .start
  | .loading, .done result => some (.finish result)
  | .loading, _ => none
  | .storing _, _ => some .store
  | .opening _, _ => some .release
  | .leaving _, _ => some .leave

namespace State

def start (cache : Cache Tile) (disk : Disk.Tree) : State α := ⟨.start cache, disk, fun _ => []⟩

/-- A thread asks for the tile of a place. A place that is refused changes nothing, and neither does
a tile that is in the cache, but for its use. -/
def ask (state : State α) (thread : Thread) (place : Place α) : Option (State α) :=
  match place.validate.bind fun () => place.key with
  | .error _ => some state
  | .ok key =>
    (state.loading.step? thread (.call key)).map fun loading =>
      { state with
        loading := loading
        jobs :=
          if state.loading.cache.contains key then state.jobs
          else setAt state.jobs thread (⟨place, .searching⟩ :: state.jobs thread) }

/-- The innermost call of a thread moves on; when it ends, its load is forgotten. -/
def pass (state : State α) (thread : Thread) : Option (State α) :=
  match state.loading.calls thread, state.jobs thread with
  | ⟨_, _, phase⟩ :: _, job :: outer =>
    (passage phase job.stage).bind fun step =>
      (state.loading.step? thread step).map fun loading =>
        { state with
          loading := loading
          jobs := match phase with | .leaving _ => setAt state.jobs thread outer | _ => state.jobs }
  | _, _ => none

def work [Machine] (provider : Provider σ) (state : State α) (thread : Thread) (work : Work) :
    Option (State α) :=
  match state.loading.calls thread, state.jobs thread with
  | ⟨_, _, .loading⟩ :: _, ⟨place, stage⟩ :: outer =>
    (advance? provider place work stage state.disk).map fun (stage, disk) =>
      { state with disk := disk, jobs := setAt state.jobs thread (⟨place, stage⟩ :: outer) }
  | _, _ => none

def step? [Machine] (provider : Provider σ) (state : State α) (thread : Thread) :
    Event α → Option (State α)
  | .ask place => if isFree (state.jobs thread) then state.ask thread place else none
  | .clear =>
    if isFree (state.jobs thread) then
      (state.loading.step? thread .clear).map fun loading => { state with loading := loading }
    else none
  | .pass => state.pass thread
  | .work work => state.work provider thread work

def run? [Machine] (provider : Provider σ) (state : State α) :
    List (Thread × Event α) → Option (State α)
  | [] => some state
  | (thread, event) :: rest =>
    (state.step? provider thread event).bind fun next => next.run? provider rest

end State

end Elevation.Provider.Threads
