import Elevation.Proofs.Provider.Offers
import Elevation.Proofs.Provider.Transparency

/-!
Heights that are settled before they are asked for. As long as nobody else writes into the directory
of a provider, the height at a place is a function of the table of its archives: no query changes the
answer to a later one, whether it loads tiles, drops some from the cache, or fails.
-/

namespace Elevation.Provider

open Elevation.Disk (Tree)

variable {σ α : Type} [Scalar α] {provider : Provider σ} {world : World σ} {dir : Disk.Place}
  {cell : Cell} {place : Place α} {partition : String} {disk : Tree}
  {reply : String → Except Disk.Refusal Unit → Transfer.Delivery}
  {offer : String → Cell → Except Failure ByteArray}

theorem Offers.ensureArchive_disk [Scalar.Grounded α] (offers : Offers provider reply offer dir world.disk)
    (answers : Answers provider.downloader reply) (place : Place α) :
    Offers provider reply offer dir (provider.ensureArchive place world).2.disk := by
  cases found : held provider place with
  | error failure =>
    rw [ensureArchive_of_error place found]
    exact offers
  | ok row => exact (offers.ensureArchive answers found (held_ok found).2.2.2).offers

variable [Machine]

/-! ### Answers from a table -/

section

variable (provider : Provider σ) (offer : String → Cell → Except Failure ByteArray)

def samplesFrom (partition : String) (cell : Cell) : Except Failure (Array Int) :=
  (offer partition cell).bind fun bytes =>
    (Tile.decode (provider.directory.child (archiveName cell)).text (.ok bytes) provider.width).map
      Prod.fst

def tileFrom (partition : String) (cell : Cell) : Except Failure Tile :=
  (samplesFrom provider offer partition cell).bind (Tile.ofSamples cell provider.width)

def foreseenTile (place : Place α) : Except Failure Tile :=
  (held provider place).bind fun row => tileFrom provider offer row.1 row.2

def foreseenHeight (place : Place α) : Except Failure (Option Int) :=
  (foreseenTile provider offer place).bind (Tile.heightAt · place)

def IsForeseen (entry : Int × Tile) : Prop :=
  ∃ partition cell, entry.1 = cell.key ∧ IsKeyed cell ∧
    provider.index.find? cell.key = some partition ∧ tileFrom provider offer partition cell = .ok entry.2

end

/-! ### Loads -/

theorem Offers.materialize (offers : Offers provider reply offer dir world.disk)
    (answers : Answers provider.downloader reply) (found : held provider place = .ok (partition, cell))
    (listed : provider.index.find? cell.key = some partition) :
    (provider.materialize place world).1 = samplesFrom provider offer partition cell ∧
      Offers provider reply offer dir (provider.materialize place world).2.disk := by
  obtain ⟨result, disk⟩ := materialize_eq provider place world
  obtain ⟨archive, offers', file⟩ := offers.ensureArchive answers found listed
  rw [result, disk]
  refine ⟨?_, offers'⟩
  rw [archive, samplesFrom]
  cases given : offer partition cell with
  | error failure => rfl
  | ok bytes =>
    obtain ⟨sound, present⟩ := file bytes given
    have read := (offers'.ready cell).opens.read_child (archiveName_ne_dots cell) sound present
    simp only [Except.map, Except.bind, read]

/-- A directory whose table is `offer`, and a cache that holds the tiles of such archives. -/
structure Steady (provider : Provider σ) (reply : String → Except Disk.Refusal Unit → Transfer.Delivery)
    (offer : String → Cell → Except Failure ByteArray) (dir : Disk.Place) (disk : Tree) : Prop where
  offers : Offers provider reply offer dir disk
  tiles : ∀ entry ∈ provider.cache.entries, IsForeseen provider offer entry

theorem steady_of_ready (ready : ∀ cell, Ready provider disk dir cell)
    (vacant : provider.cache.entries = []) (reply : String → Except Disk.Refusal Unit → Transfer.Delivery) :
    Steady provider reply (offered provider reply dir disk) dir disk := by
  refine ⟨⟨ready, fun _ => rfl⟩, ?_⟩
  intro entry present
  rw [vacant] at present
  cases present

/-- What a query leaves behind: the provider with another cache, and the same table. -/
structure Leaves (provider : Provider σ) (reply : String → Except Disk.Refusal Unit → Transfer.Delivery)
    (offer : String → Cell → Except Failure ByteArray) (dir : Disk.Place)
    (outcome : Provider σ × World σ) : Prop where
  same : ∃ cache, outcome.1 = { provider with cache := cache }
  steady : Steady outcome.1 reply offer dir outcome.2.disk

theorem Steady.leaves (steady : Steady provider reply offer dir world.disk) :
    Leaves provider reply offer dir (provider, world) :=
  ⟨⟨provider.cache, rfl⟩, steady⟩

theorem Leaves.trans {next : Provider σ} {world' : World σ} {outcome : Provider σ × World σ}
    (leaves : Leaves provider reply offer dir (next, world'))
    (leaves' : Leaves next reply offer dir outcome) : Leaves provider reply offer dir outcome := by
  obtain ⟨⟨cache, rfl⟩, -⟩ := leaves
  obtain ⟨⟨cache', same⟩, steady⟩ := leaves'
  exact ⟨⟨cache', same⟩, steady⟩

theorem Offers.recache (offers : Offers provider reply offer dir world.disk) {cache : Cache Tile}
    (tiles : ∀ entry ∈ cache.entries, IsForeseen provider offer entry) :
    Leaves provider reply offer dir ({ provider with cache := cache }, world) := by
  refine ⟨⟨cache, rfl⟩, ⟨⟨fun cell => ?_, offers.table⟩, tiles⟩⟩
  obtain ⟨opens, archive, part⟩ := offers.ready cell
  exact ⟨opens, archive, part⟩

section

variable [Scalar.Grounded α]

theorem Steady.loadTile (steady : Steady provider reply offer dir world.disk)
    (answers : Answers provider.downloader reply) (located : place.cell = .ok cell) :
    (provider.loadTile place world).1 = foreseenTile provider offer place ∧
      Offers provider reply offer dir (provider.loadTile place world).2.disk := by
  rw [loadTile_eq located, foreseenTile]
  cases found : held provider place with
  | error failure =>
    obtain ⟨result, disk⟩ := materialize_eq provider place world
    rw [result, disk, ensureArchive_of_error place found]
    exact ⟨rfl, steady.offers⟩
  | ok row =>
    obtain ⟨partition, other⟩ := row
    obtain ⟨-, located', -, listed⟩ := held_ok found
    cases located.symm.trans located'
    obtain ⟨result, offers⟩ := steady.offers.materialize answers found listed
    rw [result]
    exact ⟨rfl, offers⟩

theorem Steady.tileFrom_of_find? (steady : Steady provider reply offer dir disk) {tile : Tile}
    (valid : place.validate = .ok ()) (located : place.cell = .ok cell)
    (cached : provider.cache.find? cell.key = some tile) :
    foreseenTile provider offer place = .ok tile := by
  obtain ⟨partition, other, key, keyed, listed, built⟩ := steady.tiles _ (Cache.mem_of_find? cached)
  obtain rfl : other = cell := Cell.key_injective keyed (cell_lon_mem valid located) key.symm
  rw [foreseenTile, held_of_find? valid located listed]
  exact built

theorem isForeseen_of_foreseenTile {entry : Int × Tile} (located : place.cell = .ok cell)
    (key : entry.1 = cell.key) (loaded : foreseenTile provider offer place = .ok entry.2) :
    IsForeseen provider offer entry := by
  unfold foreseenTile at loaded
  cases found : held provider place with
  | error failure =>
    rw [found] at loaded
    cases loaded
  | ok row =>
    obtain ⟨partition, other⟩ := row
    obtain ⟨-, located', keyed, listed⟩ := held_ok found
    cases located.symm.trans located'
    rw [found] at loaded
    exact ⟨partition, cell, key, keyed, listed, loaded⟩

theorem Steady.tileAt_of_cell (steady : Steady provider reply offer dir world.disk)
    (answers : Answers provider.downloader reply) (valid : place.validate = .ok ())
    (located : place.cell = .ok cell) :
    (provider.tileAt place world).1 = foreseenTile provider offer place ∧
      Leaves provider reply offer dir (provider.tileAt place world).2 := by
  cases cached : provider.cache.find? cell.key with
  | some tile =>
    rw [tileAt_of_find? valid located cached]
    refine ⟨(steady.tileFrom_of_find? valid located cached).symm, steady.offers.recache ?_⟩
    intro entry present
    rcases Cache.mem_entries_placeLast.mp present with ⟨old, -⟩ | new
    · exact steady.tiles entry old
    · exact steady.tiles entry (new ▸ Cache.mem_of_find? cached)
  | none =>
    obtain ⟨result, offers⟩ := steady.loadTile answers located
    obtain ⟨same, after, cache, stored, entries⟩ := tileAt_of_absent valid located cached
    refine ⟨same.trans result, ?_⟩
    have outcome : (provider.tileAt place world).2 =
        ({ provider with cache := cache }, (provider.loadTile place world).2) := Prod.ext stored after
    rw [outcome]
    apply offers.recache
    intro entry present
    rcases entries entry present with old | ⟨key, loaded⟩
    · exact steady.tiles entry old
    · exact isForeseen_of_foreseenTile located key (result.symm.trans loaded)

theorem Steady.tileAt (steady : Steady provider reply offer dir world.disk)
    (answers : Answers provider.downloader reply) (place : Place α) :
    (provider.tileAt place world).1 = foreseenTile provider offer place ∧
      Leaves provider reply offer dir (provider.tileAt place world).2 := by
  cases valid : place.validate with
  | error failure =>
    rw [tileAt_of_invalid valid, foreseenTile, held_of_invalid valid]
    exact ⟨rfl, steady.leaves⟩
  | ok _ =>
    cases located : place.cell with
    | error failure =>
      rw [tileAt_of_unlocated valid located, foreseenTile, held_of_unlocated valid located]
      exact ⟨rfl, steady.leaves⟩
    | ok cell => exact steady.tileAt_of_cell answers valid located

/-! ### Queries -/

theorem Steady.heightAt (steady : Steady provider reply offer dir world.disk)
    (answers : Answers provider.downloader reply) (place : Place α) :
    (provider.heightAt place world).1 = foreseenHeight provider offer place ∧
      Leaves provider reply offer dir (provider.heightAt place world).2 := by
  obtain ⟨result, leaves⟩ := steady.tileAt answers place
  rw [heightAt_eq, result]
  exact ⟨rfl, leaves⟩

theorem Steady.heightsAt (steady : Steady provider reply offer dir world.disk)
    (answers : Answers provider.downloader reply) (places : List (Place α)) :
    (provider.heightsAt places world).1 = places.mapM (foreseenHeight provider offer) ∧
      Leaves provider reply offer dir (provider.heightsAt places world).2 := by
  induction places generalizing provider world with
  | nil => exact ⟨rfl, steady.leaves⟩
  | cons place rest ih =>
    obtain ⟨result, leaves⟩ := steady.heightAt answers place
    rw [List.mapM_cons, ← result, Provider.heightsAt]
    generalize provider.heightAt place world = outcome at leaves ⊢
    obtain ⟨failure | height, next, world'⟩ := outcome
    · exact ⟨rfl, leaves⟩
    · obtain ⟨⟨cache, rfl⟩, steady'⟩ := leaves
      obtain ⟨result', leaves'⟩ := ih steady' answers
      -- The table and what is read off it do not depend on the cache.
      change _ = rest.mapM (foreseenHeight provider offer) at result'
      rw [← result']
      simp only
      generalize { provider with cache := cache }.heightsAt rest world' = outcome' at leaves' ⊢
      obtain ⟨outcome', last⟩ := outcome'
      have whole := Leaves.trans ⟨⟨cache, rfl⟩, steady'⟩ leaves'
      cases outcome' <;> exact ⟨rfl, whole⟩

/-- Any query, successful or not, leaves all other answers as they are. -/
theorem Steady.ask (steady : Steady provider reply offer dir world.disk)
    (answers : Answers provider.downloader reply) (query : Query α) :
    Leaves provider reply offer dir (provider.ask query world).2 := by
  cases query with
  | elevationAt place => exact (steady.heightAt answers place).2
  | heightAt place => exact (steady.heightAt answers place).2
  | tileAt place => exact (steady.tileAt answers place).2
  | elevationsAt places =>
    simp only [Provider.ask, elevationsAt_eq]
    exact (steady.heightsAt answers places).2
  | ensureArchive place => exact (steady.offers.ensureArchive_disk answers place).recache steady.tiles
  | materialize place =>
    have offers := steady.offers.ensureArchive_disk answers place
    rw [← (materialize_eq provider place world).2] at offers
    exact offers.recache steady.tiles
  | clear => exact steady.offers.recache fun entry present => by cases present

end

theorem Steady.after [Scalar.Grounded α] (steady : Steady provider reply offer dir world.disk)
    (answers : Answers provider.downloader reply) (queries : List (Query α)) :
    Leaves provider reply offer dir (provider.after queries world) := by
  induction queries generalizing provider world with
  | nil => exact steady.leaves
  | cons query rest ih =>
    have leaves := steady.ask answers query
    rw [Provider.after]
    generalize provider.ask query world = outcome at leaves ⊢
    obtain ⟨_, next, world'⟩ := outcome
    obtain ⟨⟨cache, rfl⟩, steady'⟩ := leaves
    exact Leaves.trans ⟨⟨cache, rfl⟩, steady'⟩ (ih steady' answers)

end Elevation.Provider
