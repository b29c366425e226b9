import Elevation.Provider.Basic
import Elevation.Proofs.Outcome

/-!
Where it is said that an area was not found. Only the index says so; whatever a provider makes of
an archive, it does not report a missing area.
-/

namespace Elevation

/-- An outcome that is not the report of a missing area. -/
def Found {β : Type} (outcome : Except Failure β) : Prop :=
  ∀ key lat lon, outcome ≠ .error (.areaNotFound key lat lon)

namespace Found

variable {ε β γ : Type}

theorem ok (x : β) : Found (.ok x : Except Failure β) := by
  intro key lat lon same
  cases same

theorem error_cast {failure : Failure} (found : Found (.error failure : Except Failure β)) :
    Found (.error failure : Except Failure γ) := by
  intro key lat lon same
  cases same
  exact found key lat lon rfl

theorem map {outcome : Except Failure β} (found : Found outcome) (f : β → γ) :
    Found (outcome.map f) := by
  cases outcome with
  | ok x => exact ok (f x)
  | error failure => exact found.error_cast

end Found

section

variable {α : Type} [Scalar α]

theorem found_coordinateFloor (x : α) : Found (coordinateFloor x) := by
  unfold coordinateFloor
  cases snappedFloor x with
  | ok n => exact .ok n
  | error reason => exact fun key lat lon same => by cases same

theorem found_cell (place : Place α) : Found place.cell := by
  have lat := found_coordinateFloor place.lat
  have lon := found_coordinateFloor place.lon
  unfold Place.cell
  cases floored : coordinateFloor place.lat with
  | error failure => exact (floored ▸ lat).error_cast
  | ok row =>
    cases floored' : coordinateFloor place.lon with
    | error failure => exact (floored' ▸ lon).error_cast
    | ok column => exact .ok _

theorem found_validate (place : Place α) : Found place.validate := by
  unfold Place.validate
  split_ifs
  · exact fun key lat lon same => by cases same
  · exact fun key lat lon same => by cases same
  · exact .ok ()

/-! ### Tiles -/

namespace Tile

theorem found_archivePayload [Machine] (path : String) (contents : Except Disk.Refusal ByteArray)
    (width : Int) : Found (archivePayload path contents width) := by
  have reported (fault : Archive.Fault) :
      Found (.error (archiveFailure path fault) : Except Failure Payload) := by
    intro key lat lon same
    unfold archiveFailure at same
    split at same <;> cases same
  unfold archivePayload
  cases contents with
  | error refusal =>
    simp only
    split_ifs
    · exact reported (.refused refusal)
    · exact fun key lat lon same => by cases same
  | ok bytes =>
    cases listed : Archive.readDirectory (.file Machine.largestFile) bytes with
    | error fault => simpa [listed] using reported fault
    | ok directory =>
      simp only [listed]
      cases directory.entries with
      | nil => exact fun key lat lon same => by cases same
      | cons entry rest =>
        cases asked : readEntryPayload bytes directory entry (payloadSize width) with
        | error fault => simpa [asked, Except.mapError] using reported fault
        | ok payload => simpa [asked, Except.mapError] using Found.ok payload

theorem found_decode [Machine] (path : String) (contents : Except Disk.Refusal ByteArray) (width : Int) :
    Found (decode path contents width) := by
  have payload := found_archivePayload path contents width
  unfold decode roomFailure?
  split_ifs
  · exact fun key lat lon same => by cases same
  · exact fun key lat lon same => by cases same
  · simp only
    split
    next failure failed => exact (failed ▸ payload).error_cast
    next => exact fun key lat lon same => by cases same
    next => exact fun key lat lon same => by cases same
    next bytes _ => exact .ok _

theorem found_ofSamples (cell : Cell) (width : Int) (samples : Array Int) :
    Found (ofSamples cell width samples) := by
  unfold ofSamples
  split_ifs
  · exact fun key lat lon same => by cases same
  · split
    · exact .ok _
    · exact fun key lat lon same => by cases same

theorem found_nodeAt (tile : Tile) (distance : α) : Found (tile.nodeAt distance) := by
  unfold nodeAt
  cases Scalar.nearest (distance * Scalar.ofInt ((tile.width : Int) - 1)) with
  | ok n => exact .ok n
  | error reason => exact fun key lat lon same => by cases same

theorem found_degrees (n : Int) : Found (degrees n : Except Failure α) := by
  unfold degrees
  cases Scalar.ofInt? (α := α) n with
  | some x => exact .ok x
  | none => exact fun key lat lon same => by cases same

theorem found_rowOf (tile : Tile) (lat : α) : Found (tile.rowOf lat) := by
  have north := found_degrees (α := α) (tile.cell.lat + 1)
  unfold rowOf
  cases asked : degrees (α := α) (tile.cell.lat + 1) with
  | ok x => exact found_nodeAt tile _
  | error failure => exact (asked ▸ north).error_cast

theorem found_columnOf (tile : Tile) (lon : α) : Found (tile.columnOf lon) := by
  have west := found_degrees (α := α) tile.cell.lon
  unfold columnOf
  cases asked : degrees (α := α) tile.cell.lon with
  | ok x => exact found_nodeAt tile _
  | error failure => exact (asked ▸ west).error_cast

theorem found_indexAt (tile : Tile) (place : Place α) : Found (tile.indexAt place) := by
  have row := found_rowOf tile place.lat
  have column := found_columnOf tile place.lon
  unfold indexAt
  cases asked : tile.rowOf place.lat with
  | error failure => exact (asked ▸ row).error_cast
  | ok n =>
    cases asked' : tile.columnOf place.lon with
    | error failure => exact (asked' ▸ column).error_cast
    | ok m =>
      simp only
      split_ifs
      · exact .ok _
      · exact fun key lat lon same => by cases same

end Tile

/-! ### Archives -/

namespace Provider

variable {σ : Type} {provider : Provider σ} {place : Place α} {key : Int} {lat lon : String}

theorem found_abandon (world : World σ) (part : Disk.Path) (url : String) (failure : Failure) :
    Found (abandon world part url failure).1 := by
  unfold abandon
  cases world.disk.remove part with
  | error refusal => exact fun key lat lon same => by cases same
  | ok disk => exact fun key lat lon same => by cases same

theorem found_download (provider : Provider σ) (url : String) (path : Disk.Path) (world : World σ) :
    Found (provider.download url path world).1 := by
  unfold download
  simp only
  split
  · exact found_abandon _ _ _ _
  · exact .ok path

theorem found_archiveUrl (listed : Found (provider.index.lookup place)) :
    Found (provider.archiveUrl place) := by
  unfold archiveUrl Coverage.Index.qualifiedName
  cases asked : provider.index.lookup place with
  | error failure => exact (asked ▸ listed).error_cast
  | ok partition => exact ((found_cell place).map Cell.name |>.map _).map _

theorem found_ensureArchive (listed : Found (provider.index.lookup place)) (world : World σ) :
    Found (provider.ensureArchive place world).1 := by
  have url := found_archiveUrl listed
  unfold ensureArchive
  cases asked : provider.archiveUrl place with
  | error failure => exact (asked ▸ url).error_cast
  | ok address =>
    simp only
    split
    · exact fun key lat lon same => by cases same
    · exact .ok _
    · exact found_download _ _ _ _

theorem found_loadTile [Machine] (listed : Found (provider.index.lookup place)) (world : World σ) :
    Found (provider.loadTile place world).1 := by
  have cell := found_cell place
  have archive := found_ensureArchive listed world
  unfold loadTile materialize
  cases asked : place.cell with
  | error failure => exact (asked ▸ cell).error_cast
  | ok origin =>
    generalize provider.ensureArchive place world = outcome at archive ⊢
    obtain ⟨result, world'⟩ := outcome
    cases result with
    | error failure => exact archive.error_cast
    | ok path =>
      have decoded := Tile.found_decode path.text (world'.disk.read path) provider.width
      simp only
      cases asked' : Tile.decode path.text (world'.disk.read path) provider.width with
      | error failure => exact (asked' ▸ decoded).error_cast
      | ok samples => exact Tile.found_ofSamples origin provider.width samples.1

theorem found_tileAt [Machine] (listed : Found (provider.index.lookup place)) (world : World σ) :
    Found (provider.tileAt place world).1 := by
  have loaded := found_loadTile listed world
  have named : Found place.key := (found_cell place).map Cell.key
  unfold tileAt
  cases checked : place.validate with
  | error failure => exact (checked ▸ found_validate place).error_cast
  | ok _ =>
    cases asked : place.key with
    | error failure => exact (asked ▸ named).error_cast
    | ok name =>
      simp only [Cache.getOrLoad]
      split
      next => exact .ok _
      next =>
        generalize provider.loadTile place world = outcome at loaded ⊢
        obtain ⟨result, world'⟩ := outcome
        cases result with
        | error failure => exact loaded
        | ok tile => exact .ok tile

theorem found_elevationAt [Machine] (listed : Found (provider.index.lookup place)) (world : World σ) :
    Found (provider.elevationAt place world).1 := by
  have found := found_tileAt listed world
  unfold elevationAt heightAt
  generalize provider.tileAt place world = outcome at found ⊢
  obtain ⟨result, provider', world'⟩ := outcome
  cases result with
  | error failure => exact found.error_cast
  | ok tile => exact ((Tile.found_indexAt tile place).map _).map _

end Provider

end

end Elevation
