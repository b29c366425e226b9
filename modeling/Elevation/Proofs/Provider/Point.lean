import Elevation.Proofs.Archive.Writing
import Elevation.Proofs.Provider.Promise
import Elevation.Proofs.Tile.Decoding
import Elevation.Standin.Basic

/-!
A point query from end to end, over exact rationals. Whether the archive of a cell lies in the
directory or has to be transferred, the elevation at a place in the cell is what the archive has at
the sample nearest to the place.
-/

namespace Elevation.Provider

variable {σ : Type} {provider : Provider σ} {world : World σ} {dir : Disk.Place} {partition : String}
  {cell : Cell} {archive payload : ByteArray} {place : Place Rat} {width : Nat}

/-- The archive of a cell is at hand: it lies in the directory, or nothing lies there in its place
and the downloader delivers it. -/
structure AtHand (provider : Provider σ) (world : World σ) (dir : Disk.Place) (partition : String)
    (cell : Cell) (archive : ByteArray) : Prop where
  ready : Ready provider world.disk dir cell
  named : provider.directory.childFault? (partName cell) = none
  served : world.disk.find? (dir ++ [archiveName cell]) = some (.file archive) ∨
    world.disk.find? (dir ++ [archiveName cell]) = none ∧
      (provider.downloader (provider.urlOf partition cell) (.ok ()) world.far).1 =
        ⟨some archive, .ok ()⟩

theorem AtHand.ensureArchive (atHand : AtHand provider world dir partition cell archive)
    (found : held provider place = .ok (partition, cell)) :
    (provider.ensureArchive place world).1 = .ok (provider.directory.child (archiveName cell)) ∧
      (provider.ensureArchive place world).2.disk.read (provider.directory.child (archiveName cell)) =
        .ok archive := by
  obtain ⟨ready, named, served⟩ := atHand
  have proper := archiveName_ne_dots cell
  have sound := Disk.Path.childFault?_of_append named
  have present := ready.opens.exists_child proper sound
  unfold Provider.ensureArchive
  simp only [archiveUrl_eq, found, Except.map, pathOf_urlOf]
  rcases served with file | ⟨absent, delivered⟩
  · rw [file] at present
    rw [present]
    exact ⟨rfl, ready.opens.read_child proper sound file⟩
  · rw [absent] at present
    rw [present]
    have both := ready.download (provider.urlOf partition cell) named
    rw [delivered] at both
    have arrived : (landed provider (provider.urlOf partition cell) cell dir world.disk
        ⟨some archive, .ok ()⟩).1 = .ok (provider.directory.child (archiveName cell)) := by
      simp only [landed, deposited_find?_self]
    have opens := ready.opens.keeps (landed_keeps (provider.urlOf partition cell) ready
      ⟨some archive, .ok ()⟩)
    have file := landed_find? (provider.urlOf partition cell) ready ⟨some archive, .ok ()⟩
      (archiveName cell)
    rw [if_neg (partName_ne_archiveName cell cell).symm, arrived, if_pos ⟨rfl, rfl⟩,
      deposited_find?_self, ← both] at file
    rw [← both] at opens arrived
    exact ⟨arrived, opens.read_child proper sound file⟩

/-! ### From the archive to the elevation -/

def tileOf [Machine] (provider : Provider σ) (cell : Cell) (archive : ByteArray) : Except Failure Tile :=
  (Tile.decode (provider.directory.child (archiveName cell)).text (.ok archive) provider.width).bind
    fun samples => Tile.ofSamples cell provider.width samples.1

/-- The tile in the cache, if there is one, is as good as the archive. -/
theorem AtHand.tileAt [Machine] (atHand : AtHand provider world dir partition cell archive)
    (valid : place.validate = .ok ()) (located : place.cell = .ok cell)
    (listed : provider.index.find? cell.key = some partition)
    (genuine : ∀ tile, provider.cache.find? cell.key = some tile →
      tileOf provider cell archive = .ok tile) :
    (provider.tileAt place world).1 = tileOf provider cell archive := by
  cases cached : provider.cache.find? cell.key with
  | some tile => rw [tileAt_of_find? valid located cached, genuine tile cached]
  | none =>
    obtain ⟨path, read⟩ := atHand.ensureArchive (held_of_find? valid located listed)
    rw [(tileAt_of_absent valid located cached).1, loadTile_eq located]
    simp only [(materialize_eq provider place world).1, path, read, Except.bind, tileOf]
    cases Tile.decode (provider.directory.child (archiveName cell)).text (.ok archive) provider.width <;>
      rfl

theorem tileOf_of_holds [Machine] (narrow : width ≤ widestExact) (wide : provider.width = width)
    (holds : Tile.Holds archive payload) (size : payload.size = 2 * (width * width)) (cell : Cell) :
    ∃ tile, tileOf provider cell archive = .ok tile ∧ tile.cell = cell ∧ tile.width = width ∧
      tile.samples = (Tile.mask (Tile.samplesOf payload)).1 := by
  unfold tileOf
  rw [wide, Tile.decode_of_holds narrow holds size]
  exact Tile.ofSamples_of_size cell size

theorem isNaN_elevation_none : (elevation none).isNaN = true := by
  decide +kernel

/-- The elevation at a place is what the archive of its cell has at a sample within half a sample of
the place, or no number where that is not plausible. It is never refused, not even for a place that
the snap has put into a cell which it lies a little outside of. -/
theorem elevationAt_nearest [Machine] (wide : 2 ≤ width ∧ width ≤ 50000) (square : provider.width = width)
    (lat : -90 ≤ place.lat ∧ place.lat ≤ 90) (lon : -180 ≤ place.lon ∧ place.lon ≤ 180)
    (located : place.cell = .ok cell) (listed : provider.index.find? cell.key = some partition)
    (atHand : AtHand provider world dir partition cell archive) (holds : Tile.Holds archive payload)
    (size : payload.size = 2 * (width * width))
    (genuine : ∀ tile, provider.cache.find? cell.key = some tile →
      tileOf provider cell archive = .ok tile) :
    ∃ row column value x, IsNearest cell width place row column ∧
      Tile.Writes payload (2 * (row * width + column)) value ∧
      (provider.elevationAt place world).1 = .ok x ∧
      if -1000 ≤ value ∧ value ≤ 10000 then x = Float.ofInt value else x.isNaN = true := by
  have valid : place.validate = .ok () := (validate_rat place).mpr ⟨lat, lon⟩
  obtain ⟨tile, made, rfl, rfl, samples⟩ := tileOf_of_holds wide.2 square holds size cell
  obtain ⟨row, column, value, nearest, writes, height⟩ :=
    Tile.heightAt_of_payload wide located samples size
  have answer : (provider.elevationAt place world).1 =
      .ok (elevation (if Tile.isPlausible value then some value else none)) := by
    simp only [elevationAt, heightAt_eq, atHand.tileAt valid located listed genuine, made,
      Except.bind, height, Except.map]
  refine ⟨row, column, value, _, nearest, writes, answer, ?_⟩
  by_cases inBand : Tile.isPlausible value = true
  · rw [if_pos ((Tile.isPlausible_iff value).mp inBand), if_pos inBand]
    rfl
  · rw [if_neg (fun band => inBand ((Tile.isPlausible_iff value).mpr band)), if_neg inBand]
    exact isNaN_elevation_none

open scoped Standin

/-- A place next to the north-west corner of the only cell. -/
theorem elevationAt_nearest_lowland :
    ∃ row column value x, IsNearest ⟨52, 4⟩ 2 ⟨529 / 10, 41 / 10⟩ row column ∧
      Tile.Writes quad (2 * (row * 2 + column)) value ∧
      (quadProvider.elevationAt (Place.mk (529 / 10 : Rat) (41 / 10)) bareWorld).1 = .ok x ∧
      if -1000 ≤ value ∧ value ≤ 10000 then x = Float.ofInt value else x.isNaN = true := by
  have located : (Place.mk (529 / 10 : Rat) (41 / 10)).cell = .ok ⟨52, 4⟩ := by
    rw [cell_rat, show snapped (529 / 10) = 52 by decide +kernel,
      show snapped (41 / 10) = 4 by decide +kernel]
  have atHand : AtHand quadProvider bareWorld ["tiles"] "Eurasia" ⟨52, 4⟩
      (Archive.storedArchive quad) :=
    ⟨⟨opens_bareWorld, rfl, rfl⟩, by decide +kernel, Or.inr ⟨rfl, rfl⟩⟩
  exact elevationAt_nearest (by decide) rfl (by norm_num) (by norm_num) located (by decide) atHand
    (Archive.holds_storedArchive (by decide) (by decide)) rfl (fun tile cached => by cases cached)

end Elevation.Provider
