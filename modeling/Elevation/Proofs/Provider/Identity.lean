import Elevation.Proofs.Coverage.Exact
import Elevation.Proofs.Provider.Holdings
import Elevation.Proofs.Provider.Transfers

/-!
What a cell is known by. The key under which its tile is cached, its name, the address and the path
of its archive and the name of its tile are derived by separate functions; on the globe each of them
tells one cell from all others, and no cell has two of them.
-/

namespace Elevation.Provider

variable {σ α : Type} [Scalar α] {first provider : Provider σ} {world : World σ} {cell cell' : Cell}
  {place place' : Place α}

/-! ### Tiles -/

/-- Every tile in the cache is filed under the key of its own cell, which no other cell shares. -/
def Filed (provider : Provider σ) : Prop :=
  ∀ entry ∈ provider.cache.entries, entry.1 = entry.2.cell.key ∧ IsKeyed entry.2.cell

section

variable [Machine]

theorem cell_of_loadTile {tile : Tile} (located : place.cell = .ok cell)
    (loaded : (provider.loadTile place world).1 = .ok tile) : tile.cell = cell := by
  rw [loadTile_eq located] at loaded
  cases samples : (provider.materialize place world).1 with
  | error failure =>
    rw [samples] at loaded
    cases loaded
  | ok samples' =>
    rw [samples] at loaded
    exact (Tile.ofSamples_ok loaded).1

/-- The tile of a place is the tile of its cell, whether it is loaded or has been in the cache. -/
theorem Filed.cell_of_tileAt {tile : Tile} (filed : Filed provider) (valid : place.validate = .ok ())
    (located : place.cell = .ok cell) (keyed : IsKeyed cell)
    (given : (provider.tileAt place world).1 = .ok tile) : tile.cell = cell := by
  cases cached : provider.cache.find? cell.key with
  | some held =>
    rw [tileAt_of_find? valid located cached] at given
    cases given
    obtain ⟨key, keyed'⟩ := filed _ (Cache.mem_of_find? cached)
    exact (Cell.key_injective keyed keyed' key).symm
  | none =>
    rw [(tileAt_of_absent valid located cached).1] at given
    exact cell_of_loadTile located given

variable [Scalar.Charted α]

/-! ### Any operations in any order -/

/-- The providers that a provider becomes, whatever it is asked and whatever the world is like. -/
inductive Becomes (α : Type) [Scalar α] (first : Provider σ) : Provider σ → Prop
  | start : Becomes α first first
  | ask {provider : Provider σ} (becomes : Becomes α first provider) (query : Query α)
      (world : World σ) : Becomes α first (provider.ask query world).2.1
  | setDirectory {provider : Provider σ} (becomes : Becomes α first provider) (path : Disk.Path)
      (world : World σ) : Becomes α first (provider.setDirectory path world).2.1
  | setDownloader {provider : Provider σ} (becomes : Becomes α first provider)
      (downloader : Transfer.Downloader σ) : Becomes α first (provider.setDownloader downloader)

theorem Filed.tileAt (filed : Filed provider) (place : Place α) (world : World σ) :
    Filed (provider.tileAt place world).2.1 := by
  have asked := asked_tileAt provider place world
  generalize provider.tileAt place world = outcome at asked ⊢
  cases asked with
  | invalid failure invalid => exact filed
  | unlocated failure valid unlocated => exact filed
  | hit cell tile valid located cached =>
    intro entry present
    rcases Cache.mem_entries_placeLast.mp present with ⟨old, -⟩ | rfl
    · exact filed entry old
    · exact filed _ (Cache.mem_of_find? cached)
  | loaded cell tile valid located absent loaded =>
    obtain ⟨_, located', keyed⟩ := Scalar.Charted.exists_cell valid
    cases located.symm.trans located'
    intro entry present
    rcases Cache.mem_entries_put present with old | rfl
    · exact filed entry old
    · have own := cell_of_loadTile located loaded
      exact ⟨by rw [own], own ▸ keyed⟩
  | failed cell failure valid located absent failed => exact filed

theorem Filed.heightAt (filed : Filed provider) (place : Place α) (world : World σ) :
    Filed (provider.heightAt place world).2.1 := by
  rw [heightAt_eq]
  exact filed.tileAt place world

theorem Filed.heightsAt (filed : Filed provider) (places : List (Place α)) (world : World σ) :
    Filed (provider.heightsAt places world).2.1 := by
  induction places generalizing provider world with
  | nil => exact filed
  | cons place rest ih =>
    have filed' := filed.heightAt place world
    rw [Provider.heightsAt]
    generalize provider.heightAt place world = outcome at filed' ⊢
    obtain ⟨failure | height, next, world'⟩ := outcome
    · exact filed'
    · have filed'' := ih filed' world'
      simp only
      generalize next.heightsAt rest world' = outcome at filed'' ⊢
      obtain ⟨failure | heights, last, world''⟩ := outcome <;> exact filed''

theorem Filed.ask (filed : Filed provider) (query : Query α) (world : World σ) :
    Filed (provider.ask query world).2.1 := by
  cases query with
  | elevationAt place => exact filed.heightAt place world
  | heightAt place => exact filed.heightAt place world
  | tileAt place => exact filed.tileAt place world
  | elevationsAt places =>
    simp only [Provider.ask, elevationsAt_eq]
    exact filed.heightsAt places world
  | ensureArchive place => exact filed
  | materialize place => exact filed
  | clear => exact fun entry present => by cases present

theorem Becomes.filed (becomes : Becomes α first provider) (vacant : first.cache.entries = []) :
    Filed provider := by
  induction becomes with
  | start => exact fun entry present => by simp [vacant] at present
  | ask becomes query world ih => exact ih.ask query world
  | @setDirectory provider becomes path world ih =>
    unfold Provider.setDirectory
    rcases prepareDirectory world path with ⟨failure | directory, world'⟩
    · exact ih
    · exact ih
  | setDownloader becomes downloader ih => exact ih

/-! ### One cell -/

/-- What a provider makes of a place, all of it derived from one cell. -/
structure Identifies (provider : Provider σ) (place : Place α) (cell : Cell) : Prop where
  located : place.cell = .ok cell
  key : place.key = .ok cell.key
  name : place.name = .ok cell.name
  /-- The address depends on the partition that holds the cell; the path does not. -/
  archive : provider.index.covers place = .ok true → ∃ partition,
    provider.index.find? cell.key = some partition ∧
    provider.archiveUrl place = .ok (provider.urlOf partition cell) ∧
    provider.archivePath place = .ok (provider.directory.child (cell.name ++ ".hgt.zip"))
  /-- A provider that began without tiles has each of them under its own key, and gives the tile
  that bears the name of the place. -/
  tile : ∀ first, first.cache.entries = [] → Becomes α first provider →
    (∀ entry ∈ provider.cache.entries, entry.1 = entry.2.cell.key) ∧
    ∀ world tile, (provider.tileAt place world).1 = .ok tile →
      tile.cell = cell ∧ place.name = .ok tile.name

theorem identifies (provider : Provider σ) (valid : place.validate = .ok ()) :
    ∃ cell, IsKeyed cell ∧ Identifies provider place cell := by
  obtain ⟨cell, located, keyed⟩ := Scalar.Charted.exists_cell valid
  have name : place.name = .ok cell.name := by rw [Place.name, located]; rfl
  refine ⟨cell, keyed, located, by rw [Place.key, located]; rfl, name, ?_, ?_⟩
  · intro covered
    have contained : provider.index.contains cell.key = true := by
      simpa [Coverage.Index.covers, valid, Place.key, located, Except.map] using covered
    obtain ⟨partition, listed⟩ := Option.isSome_iff_exists.mp contained
    have url : provider.archiveUrl place = .ok (provider.urlOf partition cell) := by
      rw [archiveUrl_eq, held_of_find? valid located listed]
      rfl
    refine ⟨partition, listed, url, ?_⟩
    rw [archivePath, url]
    exact congrArg Except.ok (pathOf_urlOf provider partition cell)
  · intro first vacant becomes
    have filed := becomes.filed vacant
    refine ⟨fun entry present => (filed entry present).1, fun world tile given => ?_⟩
    have own := filed.cell_of_tileAt valid located keyed given
    exact ⟨own, by rw [name, Tile.name, own]⟩

/-! ### Two cells -/

/-- All that cells are known by agrees: of two places on the globe, key, corner, name, address and
path are all the same or all different, whatever the base address and the partitions are. -/
theorem identifiers_agree (provider : Provider σ) (valid : place.validate = .ok ())
    (valid' : place'.validate = .ok ()) : ∃ cell cell',
    Identifies provider place cell ∧ Identifies provider place' cell' ∧
    (place.key = place'.key ↔ cell = cell') ∧ (place.name = place'.name ↔ cell = cell') ∧
    (provider.index.covers place = .ok true → provider.index.covers place' = .ok true →
      (provider.archiveUrl place = provider.archiveUrl place' ↔ cell = cell') ∧
      (provider.archivePath place = provider.archivePath place' ↔ cell = cell')) := by
  obtain ⟨cell, keyed, known⟩ := identifies provider valid
  obtain ⟨cell', keyed', known'⟩ := identifies provider valid'
  refine ⟨cell, cell', known, known', ?_, ?_, ?_⟩
  · rw [known.key, known'.key, Except.ok.injEq]
    exact ⟨Cell.key_injective keyed keyed', congrArg Cell.key⟩
  · rw [known.name, known'.name, Except.ok.injEq]
    exact Cell.name_injective.eq_iff
  · intro covered covered'
    obtain ⟨partition, listed, url, path⟩ := known.archive covered
    obtain ⟨partition', listed', url', path'⟩ := known'.archive covered'
    rw [url, url', path, path', Except.ok.injEq, Except.ok.injEq]
    constructor
    · constructor
      · exact urlOf_inj
      · rintro rfl
        rw [listed] at listed'
        cases listed'
        rfl
    · constructor
      · exact fun same => archiveName_injective (Threads.child_injective provider.directory same)
      · rintro rfl
        rfl

end

open scoped Standin

theorem identifiers_agree_coastal :
    Threads.coastal.archivePath (Place.mk (529 / 10 : Rat) (41 / 10)) =
        .ok ⟨"/", ["tiles", "N52E004.hgt.zip"]⟩ ∧
      Threads.coastal.archiveUrl (Place.mk (529 / 10 : Rat) (41 / 10)) ≠
        Threads.coastal.archiveUrl (Place.mk (529 / 10 : Rat) (51 / 10)) := by
  have valid : (Place.mk (529 / 10 : Rat) (41 / 10)).validate = .ok () :=
    (validate_rat _).mpr (by norm_num)
  have valid' : (Place.mk (529 / 10 : Rat) (51 / 10)).validate = .ok () :=
    (validate_rat _).mpr (by norm_num)
  obtain ⟨cell, cell', known, known', -, -, agree⟩ := identifiers_agree Threads.coastal valid valid'
  have south : snapped (529 / 10) = 52 := by decide +kernel
  have west : snapped (41 / 10) = 4 := by decide +kernel
  have west' : snapped (51 / 10) = 5 := by decide +kernel
  obtain rfl : cell = ⟨52, 4⟩ := by
    cases (cell_rat _).symm.trans known.located
    rw [south, west]
  obtain rfl : cell' = ⟨52, 5⟩ := by
    cases (cell_rat _).symm.trans known'.located
    rw [south, west']
  have covered := Threads.coastal.index.covers_of_cell valid known.located
  have covered' := Threads.coastal.index.covers_of_cell valid' known'.located
  obtain ⟨-, -, -, path⟩ := known.archive covered
  refine ⟨path, fun same => ?_⟩
  cases (agree covered covered').1.mp same

end Elevation.Provider
