import Elevation.Proofs.Disk.Making
import Elevation.Proofs.Provider.Identity
import Elevation.Proofs.Provider.Publication
import Elevation.Report.Points
import Elevation.Standin.Basic

/-!
Where the archive of a cached tile is. No operation of a provider takes an archive or a directory
away, so the archive that a tile was decoded from stays in the directory that was in force then. The
description of a tile names the directory that is in force now, which may be another one.
-/

namespace Elevation.Provider

open Elevation.Disk (Tree)
open Elevation.Disk.Tree (Grows Keeps Opens)

variable {σ α : Type} [Scalar α] {provider : Provider σ} {world : World σ} {dir spot : Disk.Place}
  {cell : Cell} {place : Place α} {disk next : Tree} {directory : Disk.Path} {tile : Tile} {width : Int}
  {bytes : ByteArray}

/-! ### Archives that stay -/

/-- A tree in which all directories and all archives of another one are. -/
structure Spares (disk next : Tree) : Prop where
  keeps : Keeps disk next
  archives : ∀ spot cell bytes, disk.Clear spot →
    disk.find? (spot ++ [archiveName cell]) = some (.file bytes) →
    next.find? (spot ++ [archiveName cell]) = some (.file bytes)

theorem Spares.refl (disk : Tree) : Spares disk disk := ⟨.refl disk, fun _ _ _ _ found => found⟩

theorem spares_of_grows (grows : Grows disk next) : Spares disk next :=
  ⟨grows.keeps, fun _ _ _ _ found => grows.find? _ _ found⟩

theorem not_above_child {name : String} {other : Disk.Place} (clear : disk.Clear spot)
    (closed : disk.isDirectoryAt other = false) (apart : spot ++ [name] ≠ other) :
    ¬ other <+: spot ++ [name] := by
  intro above
  rcases List.prefix_concat_iff.mp above with whole | inside
  · exact apart whole.symm
  · exact clear.not_prefix closed inside

theorem Published.keeps (published : Published dir cell disk next)
    (closed : disk.isDirectoryAt (dir ++ [partName cell]) = false) : Keeps disk next := by
  have vacant : disk.isDirectoryAt (dir ++ [archiveName cell]) = false := by
    simp [Tree.isDirectoryAt, published.absent]
  exact Tree.keeps_of_find? published.here fun spot clear =>
    published.others spot (clear.not_prefix vacant) (clear.not_prefix closed)

theorem Ensured.spares {result : Except Failure Disk.Path} (ensured : Ensured dir cell disk result next)
    (closed : disk.isDirectoryAt (dir ++ [partName cell]) = false) : Spares disk next := by
  have proper : dir ++ [partName cell] ≠ [] := by simp
  have unlike (spot : Disk.Place) (other : Cell) :
      spot ++ [archiveName other] ≠ dir ++ [partName cell] := by
    intro same
    have last := congrArg List.getLast? same
    simp only [List.getLast?_concat, Option.some.injEq] at last
    exact partName_ne_archiveName cell other last.symm
  cases ensured with
  | refused | present => exact .refl disk
  | unfetched =>
    refine ⟨Tree.keeps_erase closed, fun spot other bytes clear found => ?_⟩
    rw [Tree.find?_erase disk proper, if_neg (unlike spot other), found]
  | published _ _ published =>
    refine ⟨published.keeps closed, fun spot other bytes clear found => ?_⟩
    have vacant : disk.isDirectoryAt (dir ++ [archiveName cell]) = false := by
      simp [Tree.isDirectoryAt, published.absent]
    have another : spot ++ [archiveName other] ≠ dir ++ [archiveName cell] := by
      intro same
      rw [same, published.absent] at found
      cases found
    rw [published.others _ (not_above_child clear vacant another)
      (not_above_child clear closed (unlike spot other)), found]

/-! ### Where archives belong -/

/-- No directory stands where an archive or a partial file belongs. -/
def Unobstructed (disk : Tree) (directory : Disk.Path) : Prop :=
  ∀ dir, Opens disk directory dir → ∀ cell,
    disk.isDirectoryAt (dir ++ [archiveName cell]) = false ∧
      disk.isDirectoryAt (dir ++ [partName cell]) = false

theorem Unobstructed.ready (free : Unobstructed disk provider.directory)
    (opens : Opens disk provider.directory dir) (cell : Cell) : Ready provider disk dir cell :=
  ⟨opens, (free dir opens cell).1, (free dir opens cell).2⟩

theorem Ensured.ready {result : Except Failure Disk.Path} (ensured : Ensured dir cell disk result next)
    (ready : ∀ other, Ready provider disk dir other) (other : Cell) : Ready provider next dir other := by
  have opens := (ready other).opens.keeps (ensured.spares (ready cell).part).keeps
  have proper : dir ++ [partName cell] ≠ [] := by simp
  cases ensured with
  | refused | present => exact ready other
  | unfetched =>
    have closed (spot : Disk.Place) (before : disk.isDirectoryAt spot = false) :
        (disk.erase (dir ++ [partName cell])).isDirectoryAt spot = false := by
      unfold Tree.isDirectoryAt at before ⊢
      rw [Tree.find?_erase disk proper]
      split_ifs
      · rfl
      · exact before
    exact ⟨opens, closed _ (ready other).archive, closed _ (ready other).part⟩
  | published _ _ published =>
    have others (name : String) (archive : archiveName cell ≠ name) (part : partName cell ≠ name) :
        next.find? (dir ++ [name]) = disk.find? (dir ++ [name]) :=
      published.others _ (fun above => archive (prefix_child_iff.mp above))
        fun above => part (prefix_child_iff.mp above)
    refine ⟨opens, ?_, ?_⟩
    · by_cases own : other = cell
      · obtain ⟨bytes, present⟩ := published.present
        simp [Tree.isDirectoryAt, own, present]
      · have same := others (archiveName other) (fun same => own (archiveName_injective same).symm)
          (partName_ne_archiveName cell other)
        simpa only [Tree.isDirectoryAt, same] using (ready other).archive
    · by_cases own : other = cell
      · simp [Tree.isDirectoryAt, own, published.moved]
      · have same := others (partName other) (partName_ne_archiveName other cell).symm
          fun same => own (partName_injective same).symm
        simpa only [Tree.isDirectoryAt, same] using (ready other).part

theorem spares_ensureArchive (ready : ∀ cell, Ready provider world.disk dir cell) (place : Place α) :
    Spares world.disk (provider.ensureArchive place world).2.disk ∧
      ∀ cell, Ready provider (provider.ensureArchive place world).2.disk dir cell := by
  cases found : held provider place with
  | error failure =>
    rw [ensureArchive_of_error place found]
    exact ⟨.refl _, ready⟩
  | ok row =>
    have ensured := (ready row.2).ensured found
    exact ⟨ensured.spares (ready row.2).part, ensured.ready ready⟩

/-! ### Tiles and their archives -/

/-- What a directory has under the name of the archive of a tile is decoded to that tile. -/
def Backs [Machine] (disk : Tree) (directory : Disk.Path) (width : Int) (tile : Tile) : Prop :=
  ∃ archive, disk.read (directory.child (archiveName tile.cell)) = .ok archive ∧
    ((Tile.decode (directory.child (archiveName tile.cell)).text (.ok archive) width).bind fun samples =>
      Tile.ofSamples tile.cell width samples.1) = .ok tile

theorem Backs.spares [Machine] (backs : Backs disk directory width tile) (opens : Opens disk directory spot)
    (spares : Spares disk next) : Backs next directory width tile := by
  obtain ⟨archive, read, decoded⟩ := backs
  have proper := archiveName_ne_dots tile.cell
  obtain ⟨sound, present⟩ := opens.read_child_ok proper read
  have still := spares.archives spot tile.cell archive opens.clear present
  exact ⟨archive, (opens.keeps spares.keeps).read_child proper sound still, decoded⟩

theorem pathOf_of_archiveUrl {url : String} (located : place.cell = .ok cell)
    (named : provider.archiveUrl place = .ok url) :
    provider.pathOf url = provider.directory.child (archiveName cell) := by
  rw [archiveUrl_eq] at named
  obtain ⟨⟨partition, other⟩, found, rfl⟩ := map_eq_ok.mp named
  unfold held at found
  split at found
  next => cases found
  next =>
    rw [located] at found
    cases found
    exact pathOf_urlOf provider partition cell

theorem path_of_ensureArchive {path : Disk.Path} (located : place.cell = .ok cell)
    (ensured : (provider.ensureArchive place world).1 = .ok path) :
    path = provider.directory.child (archiveName cell) := by
  unfold ensureArchive at ensured
  split at ensured
  next => cases ensured
  next url named =>
    rw [← pathOf_of_archiveUrl located named]
    simp only at ensured
    split at ensured
    · cases ensured
    · exact (Except.ok.inj ensured).symm
    · unfold download at ensured
      simp only at ensured
      split at ensured
      · unfold abandon at ensured
        split at ensured <;> cases ensured
      · exact (Except.ok.inj ensured).symm

theorem decode_ok [Machine] {path : String} {contents : Except Disk.Refusal ByteArray} {decoded : Array Int × Nat}
    (done : Tile.decode path contents width = .ok decoded) : ∃ archive, contents = .ok archive := by
  cases contents with
  | ok archive => exact ⟨archive, rfl⟩
  | error refusal =>
    unfold Tile.decode Tile.archivePayload at done
    split at done <;> cases done

theorem backs_of_loadTile [Machine] (located : place.cell = .ok cell)
    (loaded : (provider.loadTile place world).1 = .ok tile) :
    Backs (provider.loadTile place world).2.disk provider.directory provider.width tile := by
  have own := cell_of_loadTile located loaded
  rw [loadTile_eq located] at loaded ⊢
  simp only [(materialize_eq provider place world).1, (materialize_eq provider place world).2] at loaded ⊢
  cases ensured : (provider.ensureArchive place world).1 with
  | error failure =>
    rw [ensured] at loaded
    cases loaded
  | ok path =>
    rw [ensured] at loaded
    obtain rfl := path_of_ensureArchive located ensured
    simp only [Except.bind] at loaded
    generalize (provider.ensureArchive place world).2.disk = disk at loaded ⊢
    cases decoded : Tile.decode (provider.directory.child (archiveName cell)).text
        (disk.read (provider.directory.child (archiveName cell))) provider.width with
    | error failure =>
      rw [decoded] at loaded
      cases loaded
    | ok samples =>
      rw [decoded] at loaded
      obtain ⟨archive, read⟩ := decode_ok decoded
      rw [read] at decoded
      refine ⟨archive, own ▸ read, ?_⟩
      rw [own, decoded]
      exact loaded

/-! ### One query -/

/-- While a query is answered: the directory in force is one of those used, all of them are open, and
every tile under the key of a cell is backed by one of them. -/
structure Backed [Machine] (cell : Cell) (dir : Disk.Place) (used : List Disk.Path) (provider : Provider σ)
    (world : World σ) : Prop where
  here : world.disk.Clear world.disk.here
  ready : ∀ other, Ready provider world.disk dir other
  mine : provider.directory ∈ used
  opens : ∀ directory ∈ used, ∃ spot, Opens world.disk directory spot
  tiles : ∀ tile, (cell.key, tile) ∈ provider.cache.entries → tile.cell = cell ∧
    ∃ directory ∈ used, Backs world.disk directory provider.width tile

variable {used : List Disk.Path}

theorem Backed.move [Machine] (backed : Backed cell dir used provider world) {cache : Cache Tile} {after : World σ}
    (spares : Spares world.disk after.disk) (ready : ∀ other, Ready provider after.disk dir other)
    (tiles : ∀ tile, (cell.key, tile) ∈ cache.entries → (cell.key, tile) ∈ provider.cache.entries ∨
      tile.cell = cell ∧ Backs after.disk provider.directory provider.width tile) :
    Backed cell dir used { provider with cache := cache } after := by
  refine ⟨?_, fun other => ⟨(ready other).opens, (ready other).archive, (ready other).part⟩,
    backed.mine, fun directory use => ?_, fun tile present => ?_⟩
  · rw [spares.keeps.here]
    exact spares.keeps.clear _ backed.here
  · obtain ⟨spot, opens⟩ := backed.opens directory use
    exact ⟨spot, opens.keeps spares.keeps⟩
  · rcases tiles tile present with old | ⟨own, new⟩
    · obtain ⟨own, directory, use, backs⟩ := backed.tiles tile old
      obtain ⟨spot, opens⟩ := backed.opens directory use
      exact ⟨own, directory, use, backs.spares opens spares⟩
    · exact ⟨own, provider.directory, backed.mine, new⟩

theorem Backed.backs_of_tileAt [Machine] (backed : Backed cell dir used provider world)
    (valid : place.validate = .ok ()) (located : place.cell = .ok cell)
    (given : (provider.tileAt place world).1 = .ok tile) : tile.cell = cell ∧
      (provider.tileAt place world).2.1.directory = provider.directory ∧
      ∃ directory ∈ used, Backs (provider.tileAt place world).2.2.disk directory provider.width tile := by
  cases cached : provider.cache.find? cell.key with
  | some held =>
    rw [tileAt_of_find? valid located cached] at given ⊢
    obtain rfl := Except.ok.inj given
    obtain ⟨own, kept⟩ := backed.tiles held (Cache.mem_of_find? cached)
    exact ⟨own, rfl, kept⟩
  | none =>
    obtain ⟨loaded, after, cache, same, -⟩ := @tileAt_of_absent _ _ _ _ world _ _ _ valid located cached
    rw [loaded] at given
    rw [same, after]
    exact ⟨cell_of_loadTile located given, rfl, provider.directory, backed.mine,
      backs_of_loadTile located given⟩

theorem disk_loadTile [Machine] (located : place.cell = .ok cell) :
    (provider.loadTile place world).2.disk = (provider.ensureArchive place world).2.disk := by
  rw [loadTile_eq located]
  exact (materialize_eq provider place world).2

section

variable [Scalar.Charted α] [Machine]

theorem Backed.tileAt (backed : Backed cell dir used provider world) (keyed : IsKeyed cell)
    (place : Place α) :
    Backed cell dir used (provider.tileAt place world).2.1 (provider.tileAt place world).2.2 := by
  have asked := asked_tileAt provider place world
  generalize provider.tileAt place world = outcome at asked ⊢
  cases asked with
  | invalid failure invalid => exact backed
  | unlocated failure valid unlocated => exact backed
  | hit other held valid located cached =>
    refine backed.move (.refl _) backed.ready fun tile present => .inl ?_
    rcases Cache.mem_entries_placeLast.mp present with ⟨old, -⟩ | moved
    · exact old
    · exact moved ▸ Cache.mem_of_find? cached
  | loaded other new valid located absent loaded =>
    obtain ⟨_, located', keyed'⟩ := Scalar.Charted.exists_cell valid
    cases located.symm.trans located'
    obtain ⟨spares, ready⟩ := spares_ensureArchive backed.ready place
    rw [← disk_loadTile located] at spares ready
    refine backed.move spares ready fun tile present => ?_
    rcases Cache.mem_entries_put present with old | own
    · exact .inl old
    · obtain ⟨key, rfl⟩ := Prod.mk.inj own
      obtain rfl := Cell.key_injective keyed keyed' key
      exact .inr ⟨cell_of_loadTile located loaded, backs_of_loadTile located loaded⟩
  | failed other failure valid located absent failed =>
    obtain ⟨spares, ready⟩ := spares_ensureArchive backed.ready place
    rw [← disk_loadTile located] at spares ready
    exact backed.move spares ready fun tile present => .inl present

theorem Backed.heightAt (backed : Backed cell dir used provider world) (keyed : IsKeyed cell)
    (place : Place α) :
    Backed cell dir used (provider.heightAt place world).2.1 (provider.heightAt place world).2.2 := by
  rw [heightAt_eq]
  exact backed.tileAt keyed place

theorem Backed.heightsAt (backed : Backed cell dir used provider world) (keyed : IsKeyed cell)
    (places : List (Place α)) :
    Backed cell dir used (provider.heightsAt places world).2.1 (provider.heightsAt places world).2.2 := by
  induction places generalizing provider world with
  | nil => exact backed
  | cons place rest ih =>
    have first := backed.heightAt keyed place
    rw [Provider.heightsAt]
    generalize provider.heightAt place world = outcome at first ⊢
    obtain ⟨failure | height, next, world'⟩ := outcome
    · exact first
    · have others := ih first
      simp only
      generalize next.heightsAt rest world' = outcome at others ⊢
      obtain ⟨failure | heights, last, world''⟩ := outcome <;> exact others

theorem Backed.ask (backed : Backed cell dir used provider world) (keyed : IsKeyed cell)
    (query : Query α) :
    Backed cell dir used (provider.ask query world).2.1 (provider.ask query world).2.2 := by
  cases query with
  | elevationAt place => exact backed.heightAt keyed place
  | heightAt place => exact backed.heightAt keyed place
  | tileAt place => exact backed.tileAt keyed place
  | elevationsAt places =>
    simp only [Provider.ask, elevationsAt_eq]
    exact backed.heightsAt keyed places
  | ensureArchive place =>
    obtain ⟨spares, ready⟩ := spares_ensureArchive backed.ready place
    exact backed.move spares ready fun tile present => .inl present
  | materialize place =>
    obtain ⟨spares, ready⟩ := spares_ensureArchive backed.ready place
    rw [← (materialize_eq provider place world).2] at spares ready
    exact backed.move spares ready fun tile present => .inl present
  | clear => exact backed.move (.refl _) backed.ready fun tile present => by cases present

end

/-! ### Changes of the directory -/

theorem spares_prepareDirectory (world : World σ) (path : Disk.Path) :
    Spares world.disk (prepareDirectory world path).2.disk := by
  unfold prepareDirectory
  split
  next => exact .refl _
  next expanded _ =>
    split
    next => exact .refl _
    next =>
      split_ifs
      · exact .refl _
      · exact spares_of_grows (Tree.makeDirectories_grows world.disk expanded)

theorem opens_prepareDirectory {path : Disk.Path} {opened : World σ} (here : world.disk.Clear world.disk.here)
    (prepared : prepareDirectory world path = (.ok directory, opened)) :
    ∃ dir, Opens opened.disk directory dir := by
  obtain ⟨-, made, rfl⟩ := prepareDirectory_ok prepared
  obtain ⟨dir, opens, -⟩ := Tree.opens_of_makeDirectories here made
  exact ⟨dir, opens⟩

/-- Between queries: all directories that have been used, and the one in force, are open. -/
structure Upheld [Machine] (cell : Cell) (used : List Disk.Path) (provider : Provider σ) (world : World σ) :
    Prop where
  here : world.disk.Clear world.disk.here
  opens : ∀ directory ∈ provider.directory :: used, ∃ spot, Opens world.disk directory spot
  tiles : ∀ tile, (cell.key, tile) ∈ provider.cache.entries → tile.cell = cell ∧
    ∃ directory ∈ used, Backs world.disk directory provider.width tile

theorem Upheld.backed [Machine] (upheld : Upheld cell used provider world)
    (free : Unobstructed world.disk provider.directory) :
    ∃ dir, Backed cell dir (provider.directory :: used) provider world := by
  obtain ⟨dir, opens⟩ := upheld.opens provider.directory List.mem_cons_self
  refine ⟨dir, upheld.here, free.ready opens, List.mem_cons_self, upheld.opens, fun tile present => ?_⟩
  obtain ⟨own, directory, use, backs⟩ := upheld.tiles tile present
  exact ⟨own, directory, List.mem_cons_of_mem _ use, backs⟩

theorem Backed.upheld [Machine] (backed : Backed cell dir used provider world) :
    Upheld cell used provider world := by
  refine ⟨backed.here, fun directory use => ?_, backed.tiles⟩
  rcases List.mem_cons.mp use with rfl | use
  · exact backed.opens _ backed.mine
  · exact backed.opens directory use

theorem Upheld.setDirectory [Machine] (upheld : Upheld cell used provider world) (path : Disk.Path) :
    Upheld cell used (provider.setDirectory path world).2.1 (provider.setDirectory path world).2.2 := by
  have spares := spares_prepareDirectory world path
  unfold Provider.setDirectory
  cases prepared : prepareDirectory world path with
  | mk outcome opened =>
    rw [prepared] at spares
    have here : opened.disk.Clear opened.disk.here :=
      spares.keeps.here ▸ spares.keeps.clear _ upheld.here
    have opens (directory : Disk.Path) (use : directory ∈ provider.directory :: used) :
        ∃ spot, Opens opened.disk directory spot := by
      obtain ⟨spot, opens⟩ := upheld.opens directory use
      exact ⟨spot, opens.keeps spares.keeps⟩
    have tiles (tile : Tile) (present : (cell.key, tile) ∈ provider.cache.entries) : tile.cell = cell ∧
        ∃ directory ∈ used, Backs opened.disk directory provider.width tile := by
      obtain ⟨own, directory, use, backs⟩ := upheld.tiles tile present
      obtain ⟨spot, opens⟩ := upheld.opens directory (List.mem_cons_of_mem _ use)
      exact ⟨own, directory, use, backs.spares opens spares⟩
    cases outcome with
    | error failure => exact ⟨here, opens, tiles⟩
    | ok directory =>
      refine ⟨here, fun other use => ?_, tiles⟩
      rcases List.mem_cons.mp use with rfl | use
      · exact opens_prepareDirectory upheld.here prepared
      · exact opens other (List.mem_cons_of_mem _ use)

/-! ### Runs -/

/-- What a provider and the world become when the provider is asked and given other directories and
downloaders, in any order, and nobody else touches the files. The list has the directories that were in
force when there was a query, of which each had room for the files it may have to hold. -/
inductive Runs [Machine] (α : Type) [Scalar α] (first : Provider σ) (begin : World σ) :
    List Disk.Path → Provider σ → World σ → Prop
  | start : Runs α first begin [] first begin
  | ask {used : List Disk.Path} {provider : Provider σ} {world : World σ}
      (runs : Runs α first begin used provider world)
      (free : Unobstructed world.disk provider.directory) (query : Query α) :
      Runs α first begin (provider.directory :: used) (provider.ask query world).2.1
        (provider.ask query world).2.2
  | setDirectory {used : List Disk.Path} {provider : Provider σ} {world : World σ}
      (runs : Runs α first begin used provider world) (path : Disk.Path) :
      Runs α first begin used (provider.setDirectory path world).2.1 (provider.setDirectory path world).2.2
  | setDownloader {used : List Disk.Path} {provider : Provider σ} {world : World σ}
      (runs : Runs α first begin used provider world) (downloader : Transfer.Downloader σ) :
      Runs α first begin used (provider.setDownloader downloader) world

theorem tileInfo_ok [Machine] {info : Report.TileInfo}
    (described : (Report.tileInfo provider place world).1 = .ok info) :
    (provider.tileAt place world).1 = .ok info.tile ∧
      (Report.tileInfo provider place world).2 = (provider.tileAt place world).2 ∧
      ∃ url, (provider.tileAt place world).2.1.archiveUrl place = .ok url ∧
        info.archivePath = ((provider.tileAt place world).2.1.pathOf url).text := by
  unfold Report.tileInfo at described ⊢
  generalize provider.tileAt place world = outcome at described ⊢
  obtain ⟨failure | tile, next, after⟩ := outcome
  · cases described
  · simp only at described ⊢
    generalize named : next.archiveUrl place = outcome at described ⊢
    cases outcome with
    | error failure => cases described
    | ok url =>
      obtain rfl := Except.ok.inj described
      exact ⟨rfl, rfl, url, rfl, rfl⟩

section

variable [Scalar.Charted α] {first : Provider σ} {begin : World σ}

theorem Runs.upheld [Machine] (runs : Runs α first begin used provider world) (keyed : IsKeyed cell)
    (here : begin.disk.Clear begin.disk.here) (opens : Opens begin.disk first.directory dir)
    (vacant : first.cache.find? cell.key = none) : Upheld cell used provider world := by
  induction runs with
  | start =>
    refine ⟨here, fun directory use => ?_, fun tile present => ?_⟩
    · rw [List.mem_singleton.mp use]
      exact ⟨dir, opens⟩
    · exact absurd (List.mem_map_of_mem present) ((Cache.find?_eq_none_iff _ _).mp vacant)
  | ask _ free query ih =>
    obtain ⟨dir, backed⟩ := ih.backed free
    exact (backed.ask keyed query).upheld
  | setDirectory _ path ih => exact ih.setDirectory path
  | setDownloader _ downloader ih => exact ⟨ih.here, ih.opens, ih.tiles⟩

/-- A described tile is backed by a directory that has been used since the cache was without it, and
the path that is given with it lies in the directory in force. So the path is that of the archive which
the tile comes from, if no other directory was in force in the meantime. -/
theorem archive_of_tileInfo [Machine] {info : Report.TileInfo} (here : begin.disk.Clear begin.disk.here)
    (opens : Opens begin.disk first.directory dir) (located : place.cell = .ok cell)
    (vacant : first.cache.find? cell.key = none) (runs : Runs α first begin used provider world)
    (free : Unobstructed world.disk provider.directory)
    (described : (Report.tileInfo provider place world).1 = .ok info) :
    let after := (Report.tileInfo provider place world).2.2.disk
    info.archivePath = (provider.directory.child (archiveName info.tile.cell)).text ∧
      (∃ directory ∈ provider.directory :: used, Backs after directory provider.width info.tile) ∧
      ((∀ directory ∈ used, directory = provider.directory) →
        Backs after provider.directory provider.width info.tile) := by
  obtain ⟨given, after, url, named, path⟩ := tileInfo_ok described
  cases valid : place.validate with
  | error failure =>
    rw [tileAt_of_invalid valid] at given
    cases given
  | ok _ =>
    obtain ⟨_, located', keyed⟩ := Scalar.Charted.exists_cell valid
    cases located.symm.trans located'
    obtain ⟨dir, backed⟩ := (runs.upheld keyed here opens vacant).backed free
    obtain ⟨own, same, directory, use, backs⟩ := backed.backs_of_tileAt valid located given
    simp only [after]
    refine ⟨?_, ⟨directory, use, backs⟩, fun only => ?_⟩
    · rw [path, pathOf_of_archiveUrl located named, same, own]
    · rcases List.mem_cons.mp use with rfl | use
      · exact backs
      · exact only directory use ▸ backs

end

/-! ### A tile from another directory -/

open scoped Standin

def lookout : Place Float := ⟨52.9, 4.1⟩

theorem unobstructed_of_ready (ready : ∀ cell, Ready provider disk dir cell) :
    Unobstructed disk provider.directory := by
  intro spot opens cell
  obtain rfl : spot = dir := Except.ok.inj (opens.walk.symm.trans (ready cell).opens.walk)
  exact ⟨(ready cell).archive, (ready cell).part⟩

theorem ready_bareWorld (cell : Cell) : Ready quadProvider bareWorld.disk ["tiles"] cell :=
  ⟨opens_bareWorld, rfl, rfl⟩

theorem cell_lookout : lookout.cell = .ok ⟨52, 4⟩ := by
  have shown : lookout.cell.toOption = some ⟨52, 4⟩ := by decide +kernel
  exact eq_ok_of_toOption shown

theorem backed_quadProvider : Backed ⟨52, 4⟩ ["tiles"] [⟨"/", ["tiles"]⟩] quadProvider bareWorld := by
  refine ⟨Tree.clear_nil _, ready_bareWorld, List.mem_singleton.mpr rfl, fun directory use => ?_,
    fun tile present => by cases present⟩
  rw [List.mem_singleton.mp use]
  exact ⟨["tiles"], opens_bareWorld⟩

theorem runs_quadProvider : Runs Float quadProvider bareWorld [⟨"/", ["tiles"]⟩]
    (quadProvider.ask (.tileAt lookout) bareWorld).2.1 (quadProvider.ask (.tileAt lookout) bareWorld).2.2 :=
  .ask .start (unobstructed_of_ready ready_bareWorld) (.tileAt lookout)

theorem exists_described {outcome : Except Failure Report.TileInfo} {path : String}
    (shown : outcome.toOption.map Report.TileInfo.archivePath = some path) :
    ∃ info, outcome = .ok info ∧ info.archivePath = path := by
  cases outcome with
  | error failure => cases shown
  | ok info => exact ⟨info, rfl, Option.some.inj shown⟩

theorem archive_of_tileInfo_quadProvider : ∃ provider world info,
    Runs Float quadProvider bareWorld [⟨"/", ["tiles"]⟩] provider world ∧
      (Report.tileInfo provider lookout world).1 = .ok info ∧
      info.archivePath = "/tiles/N52E004.hgt.zip" ∧
      Backs (Report.tileInfo provider lookout world).2.2.disk provider.directory provider.width
        info.tile := by
  have keyed : IsKeyed ⟨52, 4⟩ := ⟨by decide, by decide⟩
  have shown : (Report.tileInfo (quadProvider.ask (.tileAt lookout) bareWorld).2.1 lookout
      (quadProvider.ask (.tileAt lookout) bareWorld).2.2).1.toOption.map Report.TileInfo.archivePath =
        some "/tiles/N52E004.hgt.zip" := by
    decide +kernel
  have backed := backed_quadProvider.ask keyed (.tileAt lookout)
  obtain ⟨info, described, path⟩ := exists_described shown
  have settled := archive_of_tileInfo (Tree.clear_nil _) opens_bareWorld cell_lookout rfl
    runs_quadProvider (unobstructed_of_ready backed.ready) described
  refine ⟨_, _, info, runs_quadProvider, described, path, settled.2.2 fun used use => ?_⟩
  rw [List.mem_singleton.mp use, List.mem_singleton.mp backed.mine]

/-- After the directory has been changed, a tile from the cache is described with a path where nothing
is. -/
theorem tileInfo_misplaces : ∃ provider world info,
    Runs Float quadProvider bareWorld [⟨"/", ["tiles"]⟩] provider world ∧
      (Report.tileInfo provider lookout world).1 = .ok info ∧
      info.archivePath = "/other/N52E004.hgt.zip" ∧
      (Report.tileInfo provider lookout world).2.2.disk.exists?
        ⟨"/", ["other", "N52E004.hgt.zip"]⟩ = .ok false := by
  have facts : let stocked := (quadProvider.ask (.tileAt lookout) bareWorld).2
      let moved := (stocked.1.setDirectory ⟨"/", ["other"]⟩ stocked.2).2
      let outcome := Report.tileInfo moved.1 lookout moved.2
      outcome.1.toOption.map Report.TileInfo.archivePath = some "/other/N52E004.hgt.zip" ∧
        outcome.2.2.disk.exists? ⟨"/", ["other", "N52E004.hgt.zip"]⟩ = .ok false := by
    decide +kernel
  obtain ⟨shown, missing⟩ := facts
  obtain ⟨info, described, path⟩ := exists_described shown
  exact ⟨_, _, info, runs_quadProvider.setDirectory ⟨"/", ["other"]⟩, described, path, missing⟩

end Elevation.Provider
