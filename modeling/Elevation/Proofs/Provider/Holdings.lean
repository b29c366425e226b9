import Elevation.Proofs.Cache.Recency
import Elevation.Proofs.Provider.Point
import Elevation.Proofs.Provider.Transparency
import Elevation.Standin.Basic

/-!
What a provider holds. Whatever it has been asked, whatever the archives held and whatever the
downloader did, the tiles in its cache lie on the globe under the keys of their cells, have the width
of the provider, and consist of plausible heights and voids. So no answer is ever an implausible
height, and the cache takes no more bytes than its bound allows.
-/

namespace Elevation

/-! ### Tiles of plausible heights -/

namespace Tile

def IsMasked (tile : Tile) : Prop :=
  ∀ sample ∈ tile.samples, -1000 ≤ sample ∧ sample ≤ 10000 ∨ sample = -32768

theorem ofSamples_ok {cell : Cell} {width : Int} {samples : Array Int} {tile : Tile}
    (made : ofSamples cell width samples = .ok tile) :
    tile.cell = cell ∧ (tile.width : Int) = width ∧ tile.samples = samples := by
  unfold ofSamples ofSamples? at made
  split_ifs at made with negative fits
  · cases made
    exact ⟨rfl, Int.toNat_of_nonneg (not_lt.mp negative), rfl⟩

theorem IsMasked.sampleAt {tile : Tile} (masked : IsMasked tile) (row column : Int) :
    -1000 ≤ tile.sampleAt row column ∧ tile.sampleAt row column ≤ 10000 ∨
      tile.sampleAt row column = -32768 := by
  unfold Tile.sampleAt Array.getD
  split_ifs with inside
  · exact masked _ (Array.getElem_mem inside)
  · exact Or.inr rfl

theorem IsMasked.heightAt {α : Type} [Scalar α] {tile : Tile} {place : Place α} {height : Int}
    (masked : IsMasked tile) (found : tile.heightAt place = .ok (some height)) :
    -1000 ≤ height ∧ height ≤ 10000 := by
  obtain ⟨⟨row, column⟩, -, read⟩ := map_eq_ok.mp found
  simp only at read
  split_ifs at read with void
  obtain rfl := Option.some.inj read
  exact (masked.sampleAt row column).resolve_right void

end Tile

namespace Provider

variable {σ : Type} {first provider : Provider σ} {world : World σ}

/-! ### Tiles in the cache -/

structure IsProper (provider : Provider σ) (entry : Int × Tile) : Prop where
  listed : ∃ partition, provider.index.find? entry.1 = some partition
  key : entry.1 = entry.2.cell.key
  lat : -90 ≤ entry.2.cell.lat ∧ entry.2.cell.lat ≤ 90
  lon : -180 ≤ entry.2.cell.lon ∧ entry.2.cell.lon ≤ 180
  width : (entry.2.width : Int) = provider.width
  masked : entry.2.IsMasked

theorem IsProper.size {entry : Int × Tile} (proper : IsProper provider entry) :
    (entry.2.samples.size : Int) = provider.width * provider.width := by
  rw [entry.2.size_eq, Nat.cast_mul, proper.width]

theorem isProper_of_loadTile [Machine] {place : Place Float} {cell : Cell} {tile : Tile}
    (valid : place.validate = .ok ()) (located : place.cell = .ok cell)
    (loaded : (provider.loadTile place world).1 = .ok tile) : IsProper provider (cell.key, tile) := by
  rw [loadTile_eq located, (materialize_eq provider place world).1] at loaded
  cases found : held provider place with
  | error failure =>
    rw [ensureArchive_of_error place found] at loaded
    cases loaded
  | ok row =>
    obtain ⟨partition, other⟩ := row
    obtain ⟨-, located', -, listed⟩ := held_ok found
    cases located.symm.trans located'
    cases archive : (provider.ensureArchive place world).1 with
    | error failure =>
      rw [archive] at loaded
      cases loaded
    | ok path =>
      simp only [archive, Except.bind] at loaded
      cases decoded : Tile.decode path.text
          ((provider.ensureArchive place world).2.disk.read path) provider.width with
      | error failure =>
        rw [decoded] at loaded
        cases loaded
      | ok samples =>
        simp only [decoded, Except.map] at loaded
        obtain ⟨rfl, width, same⟩ := Tile.ofSamples_ok loaded
        obtain ⟨lat, lon⟩ := cell_mem_globe valid located
        refine ⟨⟨partition, listed⟩, rfl, lat, lon, width, ?_⟩
        unfold Tile.IsMasked
        rw [same]
        exact Tile.mem_of_decode decoded

/-- A provider that still has the index, the width and the bound of the first one, and whose cache
keeps the bound and holds nothing but proper tiles. -/
structure Sound (first provider : Provider σ) : Prop where
  index : provider.index = first.index
  width : provider.width = first.width
  bound : provider.cache.bound = first.cache.bound
  fits : ∀ most, first.cache.bound = some most → provider.cache.keys.length ≤ most
  tiles : ∀ entry ∈ provider.cache.entries, IsProper first entry

theorem Sound.recache (sound : Sound first provider) {cache : Cache Tile}
    (bound : cache.bound = provider.cache.bound)
    (fits : ∀ most, first.cache.bound = some most → cache.keys.length ≤ most)
    (tiles : ∀ entry ∈ cache.entries, IsProper first entry) :
    Sound first { provider with cache := cache } :=
  ⟨sound.index, sound.width, bound.trans sound.bound, fits, tiles⟩

theorem Sound.isProper_of_loadTile [Machine] (sound : Sound first provider) {place : Place Float} {cell : Cell}
    {tile : Tile} (valid : place.validate = .ok ()) (located : place.cell = .ok cell)
    (loaded : (provider.loadTile place world).1 = .ok tile) : IsProper first (cell.key, tile) := by
  obtain ⟨listed, key, lat, lon, width, masked⟩ := Provider.isProper_of_loadTile valid located loaded
  exact ⟨sound.index ▸ listed, key, lat, lon, width.trans sound.width, masked⟩

theorem length_toEnd_le {key : Int} {keys : List Int} (present : key ∈ keys) :
    (Cache.toEnd key keys).length ≤ keys.length := by
  have fewer : (keys.filter (· ≠ key)).length < keys.length :=
    List.length_filter_lt_length_iff_exists.mpr ⟨key, present, by simp⟩
  rw [Cache.toEnd, List.length_append, List.length_singleton]
  omega

/-! ### One query -/

/-- Asking for a tile keeps a provider sound, and the tile that it gives is masked. -/
theorem Sound.tileAt [Machine] (sound : Sound first provider) (place : Place Float) (world : World σ) :
    Sound first (provider.tileAt place world).2.1 ∧
      ∀ tile, (provider.tileAt place world).1 = .ok tile → tile.IsMasked := by
  have asked := asked_tileAt provider place world
  generalize provider.tileAt place world = outcome at asked ⊢
  cases asked with
  | invalid failure invalid => exact ⟨sound, fun tile made => by cases made⟩
  | unlocated failure valid unlocated => exact ⟨sound, fun tile made => by cases made⟩
  | hit cell tile valid located cached =>
    have proper := sound.tiles _ (Cache.mem_of_find? cached)
    refine ⟨sound.recache rfl ?_ ?_, fun other made => Except.ok.inj made ▸ proper.masked⟩
    · intro most bounded
      have stay := length_toEnd_le (Cache.mem_keys_of_find? cached)
      rw [← Cache.keys_placeLast _ _ tile] at stay
      exact stay.trans (sound.fits most bounded)
    · intro entry present
      rcases Cache.mem_entries_placeLast.mp present with ⟨old, -⟩ | new
      · exact sound.tiles entry old
      · exact new ▸ proper
  | loaded cell tile valid located absent loaded =>
    have proper := sound.isProper_of_loadTile valid located loaded
    refine ⟨sound.recache rfl ?_ ?_, fun other made => Except.ok.inj made ▸ proper.masked⟩
    · intro most bounded
      have bound : provider.cache.miss.bound = some most := sound.bound.trans bounded
      rw [Cache.keys_put, Cache.length_latest, bound]
      exact min_le_left most _
    · intro entry present
      rcases Cache.mem_entries_put present with old | new
      · exact sound.tiles entry old
      · exact new ▸ proper
  | failed cell failure valid located absent failed =>
    exact ⟨sound.recache rfl sound.fits sound.tiles, fun tile made => by cases made⟩

theorem Sound.heightAt [Machine] (sound : Sound first provider) (place : Place Float) (world : World σ) :
    Sound first (provider.heightAt place world).2.1 ∧
      ∀ height, (provider.heightAt place world).1 = .ok (some height) →
        -1000 ≤ height ∧ height ≤ 10000 := by
  obtain ⟨sound', masked⟩ := sound.tileAt place world
  rw [heightAt_eq]
  refine ⟨sound', fun height found => ?_⟩
  cases tile : (provider.tileAt place world).1 with
  | error failure => simp [tile, Except.bind] at found
  | ok tile' =>
    rw [tile] at found
    exact (masked tile' tile).heightAt found

theorem Sound.heightsAt [Machine] (sound : Sound first provider) (places : List (Place Float))
    (world : World σ) : Sound first (provider.heightsAt places world).2.1 := by
  induction places generalizing provider world with
  | nil => exact sound
  | cons place rest ih =>
    have sound' := (sound.heightAt place world).1
    rw [Provider.heightsAt]
    generalize provider.heightAt place world = outcome at sound' ⊢
    obtain ⟨failure | height, next, world'⟩ := outcome
    · exact sound'
    · have sound'' := ih sound' world'
      simp only
      generalize next.heightsAt rest world' = outcome at sound'' ⊢
      obtain ⟨failure | heights, last, world''⟩ := outcome <;> exact sound''

theorem Sound.ask [Machine] (sound : Sound first provider) (query : Query Float) (world : World σ) :
    Sound first (provider.ask query world).2.1 := by
  cases query with
  | elevationAt place => exact (sound.heightAt place world).1
  | heightAt place => exact (sound.heightAt place world).1
  | tileAt place => exact (sound.tileAt place world).1
  | elevationsAt places =>
    simp only [Provider.ask, elevationsAt_eq]
    exact sound.heightsAt places world
  | ensureArchive place => exact sound
  | materialize place => exact sound
  | clear =>
    exact sound.recache rfl (fun most _ => Nat.zero_le most) fun entry present => by cases present

/-! ### Any operations in any order -/

/-- The providers that a provider becomes. Before each query the world may have changed in any way:
nothing is said about what the directory holds, nor about what the far side of a transfer does. -/
inductive Reached [Machine] (first : Provider σ) : Provider σ → Prop
  | start : Reached first first
  | ask {provider : Provider σ} (reached : Reached first provider) (query : Query Float)
      (world : World σ) : Reached first (provider.ask query world).2.1
  | setDirectory {provider : Provider σ} (reached : Reached first provider) (path : Disk.Path)
      (world : World σ) : Reached first (provider.setDirectory path world).2.1
  | setDownloader {provider : Provider σ} (reached : Reached first provider)
      (downloader : Transfer.Downloader σ) : Reached first (provider.setDownloader downloader)

/-- A provider whose cache starts out without tiles is sound ever after. -/
theorem Reached.sound [Machine] (reached : Reached first provider) (vacant : first.cache.entries = []) :
    Sound first provider := by
  induction reached with
  | start => exact ⟨rfl, rfl, rfl, by simp [Cache.keys, vacant], by simp [vacant]⟩
  | ask reached query world ih => exact ih.ask query world
  | @setDirectory provider reached path world ih =>
    unfold Provider.setDirectory
    rcases prepareDirectory world path with ⟨failure | directory, world'⟩
    · exact ih
    · exact ⟨ih.index, ih.width, ih.bound, ih.fits, ih.tiles⟩
  | setDownloader reached downloader ih => exact ⟨ih.index, ih.width, ih.bound, ih.fits, ih.tiles⟩

theorem byteSize_eq {cache : Cache Tile} {width : Int}
    (square : ∀ entry ∈ cache.entries, (entry.2.samples.size : Int) = width * width) :
    (byteSize cache : Int) = 2 * (width * width) * cache.size := by
  have added (entries : List (Int × Tile)) (total : Nat)
      (square : ∀ entry ∈ entries, (entry.2.samples.size : Int) = width * width) :
      ((entries.foldl (fun total entry => total + entry.2.byteSize) total : Nat) : Int) =
        total + 2 * (width * width) * entries.length := by
    induction entries generalizing total with
    | nil => simp
    | cons entry rest ih =>
      have size := square entry List.mem_cons_self
      rw [List.foldl_cons, ih _ fun other present => square other (List.mem_cons_of_mem _ present),
        List.length_cons, Tile.byteSize]
      push_cast
      rw [size]
      ring
  rw [byteSize, added cache.entries 0 square, Cache.size, Nat.cast_zero, zero_add]

/-- After any operations, every tile in the cache is a proper one of the right number of samples, so
every height that is given is plausible, every elevation is such a height or no number, and the
tiles take no more bytes than the bound of the cache allows. -/
theorem Reached.proper [Machine] (reached : Reached first provider) (vacant : first.cache.entries = []) :
    (∀ entry ∈ provider.cache.entries, IsProper first entry ∧
      (entry.2.samples.size : Int) = first.width * first.width) ∧
    (∀ (place : Place Float) world height, (provider.heightAt place world).1 = .ok (some height) →
      -1000 ≤ height ∧ height ≤ 10000) ∧
    (∀ (place : Place Float) world x, (provider.elevationAt place world).1 = .ok x →
      x.isNaN = true ∨ ∃ height : Int, -1000 ≤ height ∧ height ≤ 10000 ∧ x = Float.ofInt height) ∧
    (byteSize provider.cache : Int) = 2 * (first.width * first.width) * provider.cache.size ∧
    ∀ most, first.cache.bound = some most →
      (byteSize provider.cache : Int) ≤ 2 * (first.width * first.width) * most := by
  have sound := reached.sound vacant
  have heights := fun (place : Place Float) world => (sound.heightAt place world).2
  have bytes := byteSize_eq fun entry present => (sound.tiles entry present).size
  refine ⟨fun entry present => ⟨sound.tiles entry present, (sound.tiles entry present).size⟩, heights,
    ?_, bytes, ?_⟩
  · intro place world x answer
    obtain ⟨height, found, rfl⟩ := map_eq_ok.mp answer
    cases height with
    | none => exact Or.inl isNaN_elevation_none
    | some height =>
      obtain ⟨low, high⟩ := heights place world height found
      exact Or.inr ⟨height, low, high, rfl⟩
  · intro most bounded
    have fits : (provider.cache.size : Int) ≤ most := by
      have fits := sound.fits most bounded
      rw [Cache.keys, List.length_map] at fits
      exact Int.ofNat_le.mpr fits
    rw [bytes]
    exact mul_le_mul_of_nonneg_left fits (mul_nonneg (by norm_num) (mul_self_nonneg first.width))

open scoped Standin

def narrowProvider : Provider Nat := { quadProvider with cache := .empty (some 1) }

def filledProvider : Provider Nat :=
  (narrowProvider.ask (.elevationAt (Place.mk (52.9 : Float) 4.1)) bareWorld).2.1

theorem proper_filledProvider :
    narrowProvider.cache.entries = [] ∧ filledProvider.cache.size = 1 ∧
      (∀ entry ∈ filledProvider.cache.entries, IsProper narrowProvider entry) ∧
      (byteSize filledProvider.cache : Int) ≤ 8 := by
  have reached : Reached narrowProvider filledProvider := .ask .start _ _
  obtain ⟨tiles, -, -, -, bytes⟩ := reached.proper rfl
  exact ⟨rfl, by decide +kernel, fun entry present => (tiles entry present).1, bytes 1 rfl⟩

end Provider

end Elevation
