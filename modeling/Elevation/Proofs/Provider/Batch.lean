import Elevation.Proofs.Cache.Recency
import Elevation.Proofs.Provider.Point
import Elevation.Report.Points
import Elevation.Standin.Basic

/-!
How many tiles a batch of points loads. As long as the cache has room for all tiles of a batch, each
of them is loaded once at most, whatever was in the cache before; a batch that goes round more tiles
than that loads some of them again.
-/

namespace Elevation

/-- The key of the tile that a place needs; a place off the globe needs none. -/
def Place.tile? {α : Type} [Scalar α] (place : Place α) : Option Int :=
  match place.validate with
  | .error _ => none
  | .ok () => place.key.toOption

namespace Provider

open Cache (toEnd latest room)

variable {σ α : Type} [Scalar α] {provider : Provider σ} {world : World σ} {place : Place α}
  {key : Int} {keys : List Int}

def needed (places : List (Place α)) : List Int := places.filterMap Place.tile?

def tilesOf (places : List (Place α)) : Finset Int := (needed places).toFinset

/-! ### One place -/

theorem tileAt_of_tile?_eq_none [Machine] (provider : Provider σ) (world : World σ)
    (nowhere : place.tile? = none) :
    (∃ failure, (provider.tileAt place world).1 = .error failure) ∧
      (provider.tileAt place world).2 = (provider, world) := by
  unfold Place.tile? at nowhere
  cases valid : place.validate with
  | error failure =>
    rw [tileAt_of_invalid valid]
    exact ⟨⟨failure, rfl⟩, rfl⟩
  | ok _ =>
    rw [valid] at nowhere
    cases located : place.cell with
    | error failure =>
      rw [tileAt_of_unlocated valid located]
      exact ⟨⟨failure, rfl⟩, rfl⟩
    | ok cell => simp [Place.key, located, Except.map, Except.toOption] at nowhere

theorem tile?_eq_some (needs : place.tile? = some key) :
    ∃ cell, place.validate = .ok () ∧ place.cell = .ok cell ∧ cell.key = key := by
  unfold Place.tile? at needs
  cases valid : place.validate with
  | error failure => simp [valid] at needs
  | ok _ =>
    cases located : place.cell with
    | error failure => simp [valid, Place.key, located, Except.map, Except.toOption] at needs
    | ok cell =>
      simp only [valid, Place.key, located, Except.map, Except.toOption, Option.some.injEq] at needs
      exact ⟨cell, rfl, rfl, needs⟩

/-- What asking for a tile does to the keys in the cache, and how many loads it takes. -/
structure Visited (key : Int) (cache next : Cache Tile) (result : Except Failure Tile) : Prop where
  bound : next.bound = cache.bound
  misses : next.misses = cache.misses + if key ∈ cache.keys then 0 else 1
  keys : result.isOk = true →
    next.keys = toEnd key cache.keys ∨ next.keys = latest cache.bound (toEnd key cache.keys)

theorem visited_tileAt [Machine] (provider : Provider σ) (needs : place.tile? = some key) (world : World σ) :
    Visited key provider.cache (provider.tileAt place world).2.1.cache
      (provider.tileAt place world).1 := by
  obtain ⟨cell, valid, located, rfl⟩ := tile?_eq_some needs
  cases cached : provider.cache.find? cell.key with
  | some tile =>
    rw [tileAt_of_find? valid located cached]
    refine ⟨rfl, ?_, fun _ => Or.inl (Cache.keys_placeLast _ _ tile)⟩
    rw [if_pos (Cache.mem_keys_of_find? cached)]
    rfl
  | none =>
    have absent := (Cache.find?_eq_none_iff _ _).mp cached
    cases loaded : (provider.loadTile place world).1 with
    | ok tile =>
      rw [tileAt_of_loaded valid located cached loaded]
      exact ⟨rfl, by rw [if_neg absent]; rfl, fun _ => Or.inr (Cache.keys_put _ _ tile)⟩
    | error failure =>
      rw [tileAt_of_failed valid located cached loaded]
      exact ⟨rfl, by rw [if_neg absent]; rfl, fun succeeded => by cases succeeded⟩

/-! ### Some places, one after the other -/

theorem toEnd_suffix_toEnd {seen : List Int} (kept : seen <:+ keys) (key : Int) :
    toEnd key seen <:+ toEnd key keys := by
  obtain ⟨front, rfl⟩ := kept
  rw [Cache.toEnd_append]
  exact List.suffix_append _ _

theorem suffix_latest {bound : Option Nat} {seen : List Int} (kept : seen <:+ keys)
    (fits : ∀ most, bound = some most → seen.length ≤ most) : seen <:+ latest bound keys := by
  apply List.suffix_of_suffix_length_le kept (Cache.latest_suffix bound keys)
  rw [Cache.length_latest]
  have shorter := kept.length_le
  cases bound with
  | none => exact shorter
  | some most => exact le_min (fits most rfl) shorter

/-- The keys that a batch has used so far stay at the end of the cache, which has room for them. -/
theorem Visited.keeps {cache next : Cache Tile} {result : Except Failure Tile} {seen : List Int}
    (visited : Visited key cache next result) (succeeded : result.isOk = true)
    (kept : seen.dedup <:+ cache.keys)
    (fits : ∀ most, cache.bound = some most → (seen ++ [key]).toFinset.card ≤ most) :
    (seen ++ [key]).dedup <:+ next.keys := by
  have moved : (seen ++ [key]).dedup <:+ toEnd key cache.keys := by
    rw [Cache.dedup_concat]
    exact toEnd_suffix_toEnd kept key
  rcases visited.keys succeeded with keys | keys
  · rwa [keys]
  · rw [keys]
    apply suffix_latest moved
    intro most bounded
    rw [← List.card_toFinset]
    exact fits most bounded

theorem Visited.misses_le {cache next : Cache Tile} {result : Except Failure Tile} {seen : List Int}
    (visited : Visited key cache next result) (kept : seen.dedup <:+ cache.keys) :
    next.misses + seen.toFinset.card ≤ cache.misses + (seen ++ [key]).toFinset.card := by
  rw [visited.misses]
  by_cases present : key ∈ cache.keys
  · have more : seen.toFinset.card ≤ (seen ++ [key]).toFinset.card :=
      Finset.card_le_card (by simp)
    rw [if_pos present]
    omega
  · have fresh : key ∉ seen.toFinset := by
      intro used
      exact present (kept.subset (List.mem_dedup.mpr (List.mem_toFinset.mp used)))
    have more : (seen ++ [key]).toFinset.card = seen.toFinset.card + 1 := by
      rw [← Finset.card_insert_of_notMem fresh]
      congr 1
      ext other
      simp
    rw [if_neg present, more]
    omega

theorem card_le_card_append (seen more : List Int) :
    seen.toFinset.card ≤ (seen ++ more).toFinset.card :=
  Finset.card_le_card (by simp)

/-- `seen` are the keys that the batch has used before. -/
theorem misses_heightsAt_add [Machine] {seen : List Int} {places : List (Place α)}
    (kept : seen.dedup <:+ provider.cache.keys)
    (fits : ∀ most, provider.cache.bound = some most → (seen ++ needed places).toFinset.card ≤ most) :
    (provider.heightsAt places world).2.1.cache.misses + seen.toFinset.card ≤
      provider.cache.misses + (seen ++ needed places).toFinset.card := by
  induction places generalizing provider world seen with
  | nil => simp [heightsAt, needed]
  | cons place rest ih =>
    rw [heightsAt, heightAt_eq]
    cases needs : place.tile? with
    | none =>
      obtain ⟨⟨failure, failed⟩, same⟩ := tileAt_of_tile?_eq_none provider world needs
      have more := card_le_card_append seen (needed (place :: rest))
      simp only [failed, Except.bind, same]
      omega
    | some key =>
      have split : seen ++ needed (place :: rest) = (seen ++ [key]) ++ needed rest := by
        simp [needed, needs]
      have visited := visited_tileAt provider needs world
      have one := visited.misses_le kept
      have more := card_le_card_append (seen ++ [key]) (needed rest)
      rw [split] at fits ⊢
      generalize provider.tileAt place world = outcome at visited one ⊢
      obtain ⟨result, next, world'⟩ := outcome
      cases result with
      | error failure =>
        simp only [Except.bind] at one ⊢
        omega
      | ok tile =>
        have kept' := visited.keeps rfl kept fun most bounded => more.trans (fits most bounded)
        have others := @ih next world' (seen ++ [key]) kept' (by rwa [visited.bound])
        simp only [Except.bind] at one others ⊢
        cases tile.heightAt place with
        | error failure =>
          simp only
          omega
        | ok height =>
          simp only
          generalize next.heightsAt rest world' = outcome' at others ⊢
          obtain ⟨result', last, world''⟩ := outcome'
          cases result' <;> simp only at others ⊢ <;> omega

/-! ### Batches -/

theorem queryPlaces_snd [Machine] (provider : Provider σ) (places : List (Place α)) (world : World σ) :
    (Report.queryPlaces provider places world).2 = (provider.heightsAt places world).2 := by
  unfold Report.queryPlaces
  rcases provider.heightsAt places world with ⟨failure | heights, last, world'⟩ <;> rfl

/-- A batch whose tiles have room in the cache loads none of them twice. -/
theorem misses_elevationsAt_le [Machine] {places : List (Place α)}
    (fits : ∀ most, provider.cache.bound = some most → (tilesOf places).card ≤ most)
    (world : World σ) :
    (provider.elevationsAt places world).2.1.cache.misses ≤
        provider.cache.misses + (tilesOf places).card ∧
      (Report.queryPlaces provider places world).2.1.cache.misses ≤
        provider.cache.misses + (tilesOf places).card := by
  have loads := @misses_heightsAt_add σ α _ provider world _ [] places List.nil_suffix fits
  rw [elevationsAt_eq, queryPlaces_snd]
  exact ⟨loads, loads⟩

open scoped Standin

/-- From one cell to the other and back. -/
def roundTrip : List (Place Float) := [⟨52.9, 4.1⟩, ⟨52.9, 5.1⟩, ⟨52.9, 4.1⟩]

theorem misses_elevationsAt_le_roundTrip :
    (∀ most, (coastProvider (some 2)).cache.bound = some most → (tilesOf roundTrip).card ≤ most) ∧
      ((coastProvider (some 2)).elevationsAt roundTrip bareWorld).2.1.cache.misses ≤
        (tilesOf roundTrip).card := by
  have fits : ∀ most, (coastProvider (some 2)).cache.bound = some most →
      (tilesOf roundTrip).card ≤ most := by
    rintro most ⟨⟩
    decide +kernel
  have loads := (misses_elevationsAt_le fits bareWorld).1
  exact ⟨fits, loads.trans (Nat.zero_add _).le⟩

/-- A cache for one tile loads three times for two tiles. -/
theorem elevationsAt_reloads :
    ((coastProvider (some 1)).elevationsAt roundTrip bareWorld).1.isOk = true ∧
      (tilesOf roundTrip).card = 2 ∧
      ((coastProvider (some 1)).elevationsAt roundTrip bareWorld).2.1.cache.misses = 3 := by
  decide +kernel

end Provider

end Elevation
