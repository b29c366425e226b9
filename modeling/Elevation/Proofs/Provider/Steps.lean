import Elevation.Proofs.Cache.Contents
import Elevation.Provider.Basic

/-!
The steps of a point query, each in terms of the one before it: the archive, its samples, the tile,
the height. Only the archive touches the tree, and only the tile touches the cache.
-/

namespace Elevation.Provider

variable {σ α : Type} [Scalar α] {provider : Provider σ} {world : World σ} {cell : Cell}

variable [Machine]

theorem materialize_eq (provider : Provider σ) (place : Place α) (world : World σ) :
    (provider.materialize place world).1 = ((provider.ensureArchive place world).1.bind fun path =>
        (Tile.decode path.text ((provider.ensureArchive place world).2.disk.read path)
          provider.width).map Prod.fst) ∧
      (provider.materialize place world).2.disk = (provider.ensureArchive place world).2.disk := by
  unfold materialize
  rcases provider.ensureArchive place world with ⟨failure | path, world'⟩
  · exact ⟨rfl, rfl⟩
  · simp only [Except.bind]
    cases Tile.decode path.text (world'.disk.read path) provider.width with
    | error failure => exact ⟨rfl, rfl⟩
    | ok samples =>
      refine ⟨rfl, ?_⟩
      simp only
      split_ifs <;> rfl

theorem loadTile_eq {place : Place α} (located : place.cell = .ok cell) :
    provider.loadTile place world =
      ((provider.materialize place world).1.bind (Tile.ofSamples cell provider.width),
        (provider.materialize place world).2) := by
  unfold loadTile
  rw [located]
  rcases provider.materialize place world with ⟨failure | samples, world'⟩ <;> rfl

theorem tileAt_of_invalid {place : Place α} {failure : Failure} (invalid : place.validate = .error failure) :
    provider.tileAt place world = (.error failure, provider, world) := by
  unfold tileAt
  rw [invalid]

theorem tileAt_of_unlocated {place : Place α} {failure : Failure} (valid : place.validate = .ok ())
    (unlocated : place.cell = .error failure) :
    provider.tileAt place world = (.error failure, provider, world) := by
  unfold tileAt
  simp only [valid, Place.key, unlocated, Except.map]

theorem tileAt_of_find? {place : Place α} {tile : Tile} (valid : place.validate = .ok ())
    (located : place.cell = .ok cell) (cached : provider.cache.find? cell.key = some tile) :
    provider.tileAt place world =
      (.ok tile, { provider with cache := (provider.cache.placeLast cell.key tile).hit }, world) := by
  unfold tileAt
  simp only [valid, Place.key, located, Except.map, Cache.getOrLoad_of_find? cached]

theorem tileAt_of_absent {place : Place α} (valid : place.validate = .ok ())
    (located : place.cell = .ok cell) (absent : provider.cache.find? cell.key = none) :
    (provider.tileAt place world).1 = (provider.loadTile place world).1 ∧
      (provider.tileAt place world).2.2 = (provider.loadTile place world).2 ∧
      ∃ cache, (provider.tileAt place world).2.1 = { provider with cache := cache } ∧
        ∀ entry ∈ cache.entries, entry ∈ provider.cache.entries ∨
          entry.1 = cell.key ∧ (provider.loadTile place world).1 = .ok entry.2 := by
  unfold tileAt
  simp only [valid, Place.key, located, Except.map, Cache.getOrLoad_of_absent absent]
  rcases provider.loadTile place world with ⟨failure | tile, world'⟩
  · exact ⟨rfl, rfl, _, rfl, fun entry present => Or.inl present⟩
  · refine ⟨rfl, rfl, _, rfl, ?_⟩
    intro entry present
    rcases Cache.mem_entries_put present with old | new
    · exact Or.inl old
    · exact Or.inr ⟨congrArg Prod.fst new, by rw [new]⟩

theorem tileAt_of_loaded {place : Place α} {tile : Tile} (valid : place.validate = .ok ())
    (located : place.cell = .ok cell) (absent : provider.cache.find? cell.key = none)
    (loaded : (provider.loadTile place world).1 = .ok tile) :
    provider.tileAt place world =
      (.ok tile, { provider with cache := provider.cache.miss.put cell.key tile },
        (provider.loadTile place world).2) := by
  unfold tileAt
  simp only [valid, Place.key, located, Except.map, Cache.getOrLoad_of_absent absent, loaded]

theorem tileAt_of_failed {place : Place α} {failure : Failure} (valid : place.validate = .ok ())
    (located : place.cell = .ok cell) (absent : provider.cache.find? cell.key = none)
    (failed : (provider.loadTile place world).1 = .error failure) :
    provider.tileAt place world =
      (.error failure, { provider with cache := provider.cache.miss },
        (provider.loadTile place world).2) := by
  unfold tileAt
  simp only [valid, Place.key, located, Except.map, Cache.getOrLoad_of_absent absent, failed]

/-- What asking for a tile comes to, with the provider and the world after it. -/
inductive Asked (provider : Provider σ) (place : Place α) (world : World σ) :
    Except Failure Tile × Provider σ × World σ → Prop
  | invalid (failure : Failure) (invalid : place.validate = .error failure) :
    Asked provider place world (.error failure, provider, world)
  | unlocated (failure : Failure) (valid : place.validate = .ok ())
    (unlocated : place.cell = .error failure) :
    Asked provider place world (.error failure, provider, world)
  | hit (cell : Cell) (tile : Tile) (valid : place.validate = .ok ()) (located : place.cell = .ok cell)
    (cached : provider.cache.find? cell.key = some tile) :
    Asked provider place world
      (.ok tile, { provider with cache := (provider.cache.placeLast cell.key tile).hit }, world)
  | loaded (cell : Cell) (tile : Tile) (valid : place.validate = .ok ())
    (located : place.cell = .ok cell) (absent : provider.cache.find? cell.key = none)
    (loaded : (provider.loadTile place world).1 = .ok tile) :
    Asked provider place world
      (.ok tile, { provider with cache := provider.cache.miss.put cell.key tile },
        (provider.loadTile place world).2)
  | failed (cell : Cell) (failure : Failure) (valid : place.validate = .ok ())
    (located : place.cell = .ok cell) (absent : provider.cache.find? cell.key = none)
    (failed : (provider.loadTile place world).1 = .error failure) :
    Asked provider place world
      (.error failure, { provider with cache := provider.cache.miss }, (provider.loadTile place world).2)

theorem asked_tileAt (provider : Provider σ) (place : Place α) (world : World σ) :
    Asked provider place world (provider.tileAt place world) := by
  cases valid : place.validate with
  | error failure =>
    rw [tileAt_of_invalid valid]
    exact .invalid failure valid
  | ok _ =>
    cases located : place.cell with
    | error failure =>
      rw [tileAt_of_unlocated valid located]
      exact .unlocated failure valid located
    | ok cell =>
      cases cached : provider.cache.find? cell.key with
      | some tile =>
        rw [tileAt_of_find? valid located cached]
        exact .hit cell tile valid located cached
      | none =>
        cases loaded : (provider.loadTile place world).1 with
        | ok tile =>
          rw [tileAt_of_loaded valid located cached loaded]
          exact .loaded cell tile valid located cached loaded
        | error failure =>
          rw [tileAt_of_failed valid located cached loaded]
          exact .failed cell failure valid located cached loaded

theorem heightAt_eq (provider : Provider σ) (place : Place α) (world : World σ) :
    provider.heightAt place world =
      ((provider.tileAt place world).1.bind (Tile.heightAt · place),
        (provider.tileAt place world).2) := by
  unfold heightAt
  rcases provider.tileAt place world with ⟨failure | tile, provider', world'⟩ <;> rfl

/-- A batch of elevations is a batch of heights, turned into floating-point numbers. -/
theorem elevationsAt_eq (provider : Provider σ) (places : List (Place α)) (world : World σ) :
    provider.elevationsAt places world =
      ((provider.heightsAt places world).1.map (List.map elevation),
        (provider.heightsAt places world).2) := by
  induction places generalizing provider world with
  | nil => rfl
  | cons place rest ih =>
    rw [elevationsAt, heightsAt, elevationAt]
    rcases provider.heightAt place world with ⟨failure | height, next, world'⟩
    · rfl
    · simp only [Except.map, ih next world']
      rcases next.heightsAt rest world' with ⟨failure | heights, last, after⟩ <;> rfl

end Elevation.Provider
