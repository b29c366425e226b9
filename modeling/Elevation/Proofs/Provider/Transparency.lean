import Elevation.Proofs.Outcome
import Elevation.Proofs.Provider.Promise
import Elevation.Standin.Basic

/-!
Caching is transparent. Whatever has been asked before, whatever has left the cache and whatever lies
in the directory, a query gets the answer that a fresh provider would give: both answer what the
state-free functions say.
-/

namespace Elevation.Provider

variable {σ α : Type} [Scalar α] [Scalar.Grounded α] {provider : Provider σ} {world : World σ}
  {dir : Disk.Place} {reply : String → Except Disk.Refusal Unit → Transfer.Delivery}

section

variable [Machine]

/-! ### One query -/

/-- A query gives an answer, changes nothing of the provider but its cache, and keeps all promises. -/
structure Gives {β : Type} (provider : Provider σ)
    (reply : String → Except Disk.Refusal Unit → Transfer.Delivery) (dir : Disk.Place)
    (outcome : β × Provider σ × World σ) (answer : β) : Prop where
  answer : outcome.1 = answer
  same : { outcome.2.1 with cache := provider.cache } = provider
  kept : Kept outcome.2.1 reply dir outcome.2.2.disk

theorem tileFor_eq_bind {place : Place α} {cell : Cell} (located : place.cell = .ok cell) :
    tileFor provider reply place =
      (samplesAt provider reply place).bind (Tile.ofSamples cell provider.width) := by
  unfold tileFor samplesAt
  cases found : held provider place with
  | error failure => rfl
  | ok row =>
    obtain ⟨partition, other⟩ := row
    obtain ⟨-, located', -, -⟩ := held_ok found
    cases located.symm.trans located'
    simp only [built]
    cases decoded provider reply partition cell <;> rfl

theorem Kept.loadTile (kept : Kept provider reply dir world.disk)
    (answers : Answers provider.downloader reply) {place : Place α} {cell : Cell}
    (located : place.cell = .ok cell) :
    (provider.loadTile place world).1 = tileFor provider reply place ∧
      Kept provider reply dir (provider.loadTile place world).2.disk := by
  obtain ⟨result, kept'⟩ := kept.materialize answers place
  rw [loadTile_eq located, result, tileFor_eq_bind located]
  exact ⟨rfl, kept'⟩

theorem Kept.recache (kept : Kept provider reply dir world.disk) {cache : Cache Tile}
    (genuine : ∀ entry ∈ cache.entries, IsGenuine provider reply entry) :
    Kept { provider with cache := cache } reply dir world.disk :=
  ⟨kept.opens, kept.files, genuine⟩

/-- A tile in the cache is the one that its archive would give again. -/
theorem Kept.tileFor_of_find? (kept : Kept provider reply dir world.disk) {place : Place α}
    {cell : Cell} {tile : Tile} (valid : place.validate = .ok ()) (located : place.cell = .ok cell)
    (found : provider.cache.find? cell.key = some tile) :
    tileFor provider reply place = .ok tile := by
  obtain ⟨partition, other, key, keyed, listed, genuine⟩ := kept.tiles _ (Cache.mem_of_find? found)
  obtain rfl : other = cell := Cell.key_injective keyed (cell_lon_mem valid located) key.symm
  rw [tileFor, held_of_find? valid located listed]
  exact genuine

theorem isGenuine_of_tileFor {place : Place α} {cell : Cell} {entry : Int × Tile}
    (located : place.cell = .ok cell) (key : entry.1 = cell.key)
    (loaded : tileFor provider reply place = .ok entry.2) : IsGenuine provider reply entry := by
  unfold tileFor at loaded
  cases found : held provider place with
  | error failure => simp [found] at loaded
  | ok row =>
    obtain ⟨partition, other⟩ := row
    obtain ⟨-, located', keyed, listed⟩ := held_ok found
    cases located.symm.trans located'
    rw [found] at loaded
    exact ⟨partition, cell, key, keyed, listed, loaded⟩

theorem Kept.tileAt_of_cell (kept : Kept provider reply dir world.disk)
    (answers : Answers provider.downloader reply) {place : Place α} {cell : Cell}
    (valid : place.validate = .ok ()) (located : place.cell = .ok cell) :
    Gives provider reply dir (provider.tileAt place world) (tileFor provider reply place) := by
  cases cached : provider.cache.find? cell.key with
  | some tile =>
    rw [tileAt_of_find? valid located cached]
    refine ⟨(kept.tileFor_of_find? valid located cached).symm, rfl, kept.recache ?_⟩
    intro entry present
    rcases Cache.mem_entries_placeLast.mp present with ⟨old, -⟩ | new
    · exact kept.tiles entry old
    · exact kept.tiles entry (new ▸ Cache.mem_of_find? cached)
  | none =>
    obtain ⟨result, kept'⟩ := kept.loadTile answers located
    obtain ⟨same, after, cache, stored, entries⟩ := tileAt_of_absent valid located cached
    refine ⟨same.trans result, by rw [stored], ?_⟩
    rw [stored, after]
    apply kept'.recache
    intro entry present
    rcases entries entry present with old | ⟨key, loaded⟩
    · exact kept'.tiles entry old
    · exact isGenuine_of_tileFor located key (result.symm.trans loaded)

theorem Kept.tileAt (kept : Kept provider reply dir world.disk)
    (answers : Answers provider.downloader reply) (place : Place α) :
    Gives provider reply dir (provider.tileAt place world) (tileFor provider reply place) := by
  cases valid : place.validate with
  | error failure =>
    rw [tileAt_of_invalid valid, tileFor, held_of_invalid valid]
    exact ⟨rfl, rfl, kept⟩
  | ok _ =>
    cases located : place.cell with
    | error failure =>
      rw [tileAt_of_unlocated valid located, tileFor, held_of_unlocated valid located]
      exact ⟨rfl, rfl, kept⟩
    | ok cell => exact kept.tileAt_of_cell answers valid located

/-! ### Heights and elevations -/

theorem Gives.map {β γ : Type} {outcome : β × Provider σ × World σ} {answer : β}
    (gives : Gives provider reply dir outcome answer) (f : β → γ) :
    Gives provider reply dir (f outcome.1, outcome.2) (f answer) :=
  ⟨congrArg f gives.answer, gives.same, gives.kept⟩

theorem Kept.heightAt (kept : Kept provider reply dir world.disk)
    (answers : Answers provider.downloader reply) (place : Place α) :
    Gives provider reply dir (provider.heightAt place world) (heightFor provider reply place) := by
  obtain ⟨result, same, kept'⟩ := kept.tileAt answers place
  rw [heightAt_eq, result]
  refine ⟨?_, same, kept'⟩
  unfold heightFor
  cases tileFor provider reply place <;> rfl

theorem Kept.elevationAt (kept : Kept provider reply dir world.disk)
    (answers : Answers provider.downloader reply) (place : Place α) :
    Gives provider reply dir (provider.elevationAt place world) (elevationFor provider reply place) :=
  (kept.heightAt answers place).map (Except.map elevation)

theorem Kept.elevationsAt (kept : Kept provider reply dir world.disk)
    (answers : Answers provider.downloader reply) (places : List (Place α)) :
    Gives provider reply dir (provider.elevationsAt places world)
      (elevationsFor provider reply places) := by
  induction places generalizing provider world with
  | nil => exact ⟨rfl, rfl, kept⟩
  | cons place rest ih =>
    obtain ⟨result, same, kept'⟩ := kept.elevationAt answers place
    rw [elevationsFor, List.mapM_cons, ← result, Provider.elevationsAt]
    generalize provider.elevationAt place world = outcome at same kept' ⊢
    obtain ⟨outcome, next, world'⟩ := outcome
    simp only at same kept' ⊢
    -- The provider that the rest is asked of differs from this one in its cache only.
    have downloader : next.downloader = provider.downloader := by rw [← same]
    have carried : elevationsFor next reply rest = rest.mapM (elevationFor provider reply) := by
      rw [← same]
      rfl
    cases outcome with
    | error failure => exact ⟨rfl, same, kept'⟩
    | ok height =>
      obtain ⟨result', same', kept''⟩ := ih kept' (downloader ▸ answers)
      rw [← carried, ← result']
      simp only
      generalize next.elevationsAt rest world' = outcome' at same' kept'' ⊢
      obtain ⟨outcome', last, world''⟩ := outcome'
      have whole : { last with cache := provider.cache } = provider := by
        rw [← same, ← same']
      cases outcome' <;> exact ⟨rfl, whole, kept''⟩

end

/-! ### Any queries in any order -/

inductive Query (α : Type) where
  | elevationAt (place : Place α)
  | heightAt (place : Place α)
  | tileAt (place : Place α)
  | elevationsAt (places : List (Place α))
  | ensureArchive (place : Place α)
  | materialize (place : Place α)
  | clear

inductive Answer where
  | elevation (result : Except Failure Float)
  | height (result : Except Failure (Option Int))
  | tile (result : Except Failure Tile)
  | elevations (result : Except Failure (List Float))
  | archive (result : Except Failure Disk.Path)
  | samples (result : Except Failure (Array Int))
  | cleared

section

variable [Machine]

def ask {α : Type} [Scalar α] (provider : Provider σ) (query : Query α) (world : World σ) :
    Answer × Provider σ × World σ :=
  match query with
  | .elevationAt place => (provider.elevationAt place world).map Answer.elevation id
  | .heightAt place => (provider.heightAt place world).map Answer.height id
  | .tileAt place => (provider.tileAt place world).map Answer.tile id
  | .elevationsAt places => (provider.elevationsAt places world).map Answer.elevations id
  | .ensureArchive place => (provider.ensureArchive place world).map Answer.archive (provider, ·)
  | .materialize place => (provider.materialize place world).map Answer.samples (provider, ·)
  | .clear => (.cleared, provider.clear, world)

def answers {α : Type} [Scalar α] (provider : Provider σ) : List (Query α) → World σ → List Answer
  | [], _ => []
  | query :: rest, world =>
    let (answer, provider, world) := provider.ask query world
    answer :: provider.answers rest world

def after {α : Type} [Scalar α] (provider : Provider σ) :
    List (Query α) → World σ → Provider σ × World σ
  | [], world => (provider, world)
  | query :: rest, world =>
    let (_, provider, world) := provider.ask query world
    provider.after rest world

/-- The answer to a query without any state. -/
def answerFor {α : Type} [Scalar α] (provider : Provider σ)
    (reply : String → Except Disk.Refusal Unit → Transfer.Delivery) : Query α → Answer
  | .elevationAt place => .elevation (elevationFor provider reply place)
  | .heightAt place => .height (heightFor provider reply place)
  | .tileAt place => .tile (tileFor provider reply place)
  | .elevationsAt places => .elevations (elevationsFor provider reply places)
  | .ensureArchive place => .archive (archiveAt provider reply place)
  | .materialize place => .samples (samplesAt provider reply place)
  | .clear => .cleared

theorem Kept.ask (kept : Kept provider reply dir world.disk)
    (answers : Answers provider.downloader reply) (query : Query α) :
    Gives provider reply dir (provider.ask query world) (answerFor provider reply query) := by
  cases query with
  | elevationAt place => exact (kept.elevationAt answers place).map Answer.elevation
  | heightAt place => exact (kept.heightAt answers place).map Answer.height
  | tileAt place => exact (kept.tileAt answers place).map Answer.tile
  | elevationsAt places => exact (kept.elevationsAt answers places).map Answer.elevations
  | ensureArchive place =>
    obtain ⟨result, kept'⟩ := kept.ensureArchive answers place
    exact ⟨congrArg Answer.archive result, rfl, kept'⟩
  | materialize place =>
    obtain ⟨result, kept'⟩ := kept.materialize answers place
    exact ⟨congrArg Answer.samples result, rfl, kept'⟩
  | clear => exact ⟨rfl, rfl, kept.recache (fun entry present => by cases present)⟩

/-- However long the run, every query is answered without any state. -/
theorem Kept.answers (kept : Kept provider reply dir world.disk)
    (answers : Answers provider.downloader reply) (queries : List (Query α)) :
    provider.answers queries world = queries.map (answerFor provider reply) := by
  induction queries generalizing provider world with
  | nil => rfl
  | cons query rest ih =>
    obtain ⟨result, same, kept'⟩ := kept.ask answers query
    rw [List.map_cons, Provider.answers, ← result]
    generalize provider.ask query world = outcome at same kept' ⊢
    obtain ⟨answer, next, world'⟩ := outcome
    simp only at same kept' ⊢
    have downloader : next.downloader = provider.downloader := by rw [← same]
    have carried : answerFor (α := α) next reply = answerFor provider reply := by
      rw [← same]
      funext query
      cases query <;> rfl
    rw [ih kept' (downloader ▸ answers), carried]

end

/-! ### A provider in an empty directory -/

theorem prepareDirectory_ok {path directory : Disk.Path} {opened : World σ}
    (prepared : prepareDirectory world path = (.ok directory, opened)) :
    path.expandHome world.homes = .ok directory ∧
      (world.disk.makeDirectories directory).1 = .ok () ∧
      opened = { world with disk := (world.disk.makeDirectories directory).2 } := by
  unfold prepareDirectory at prepared
  cases expanded : path.expandHome world.homes with
  | error fault => simp [expanded] at prepared
  | ok path' =>
    simp only [expanded] at prepared
    cases present : world.disk.exists? path' with
    | error refusal => simp [present] at prepared
    | ok present' =>
      simp only [present] at prepared
      split_ifs at prepared
      · simp at prepared
      · obtain ⟨made, left⟩ := Prod.mk.inj prepared
        obtain ⟨_, made', rfl⟩ := map_eq_ok.mp (mapError_eq_ok.mp made)
        exact ⟨rfl, made', left.symm⟩

theorem create_ok {index : Coverage.Index} {path : Disk.Path} {downloader : Transfer.Downloader σ}
    {cache : Cache Tile} {baseUrl : String} {width : Int} {opened : World σ}
    (created : create index path downloader cache baseUrl width world = (.ok provider, opened)) :
    ∃ directory, path.expandHome world.homes = .ok directory ∧
      provider = ⟨index, String.ofList (Disk.Path.dropTrailing '/' baseUrl.toList), width, directory,
        downloader, cache⟩ ∧
      prepareDirectory world path = (.ok directory, opened) := by
  unfold create at created
  cases prepared : prepareDirectory world path with
  | mk outcome world' =>
    cases outcome with
    | error failure => simp [prepared] at created
    | ok directory =>
      simp only [prepared, Prod.mk.injEq, Except.ok.injEq] at created
      obtain ⟨rfl, rfl⟩ := created
      exact ⟨directory, (prepareDirectory_ok prepared).1, rfl, rfl⟩

theorem Kept.of_create [Machine] {index : Coverage.Index} {path : Disk.Path}
    {downloader : Transfer.Downloader σ} {bound : Option Nat} {baseUrl : String} {width : Int}
    {opened : World σ}
    (created : create index path downloader (.empty bound) baseUrl width world = (.ok provider, opened))
    (here : world.disk.Clear world.disk.here) (vacant : opened.disk.names provider.directory = [])
    (reply : String → Except Disk.Refusal Unit → Transfer.Delivery) :
    ∃ dir, Kept provider reply dir opened.disk := by
  obtain ⟨directory, -, rfl, prepared⟩ := create_ok created
  obtain ⟨-, made, rfl⟩ := prepareDirectory_ok prepared
  obtain ⟨dir, opens, located⟩ := Disk.Tree.opens_of_makeDirectories here made
  exact ⟨dir, opens, fun name => Or.inl (Disk.Tree.find?_of_names located vacant name),
    fun entry present => by cases present⟩

/-- Caching is transparent. With a downloader that answers every request for an address alike,
each query of a run gets the answer that a fresh provider gives to that query alone: neither the
queries before it nor the bounds of the caches make a difference. -/
theorem answers_eq_map_fresh [Machine] {index : Coverage.Index} {path : Disk.Path}
    {downloader : Transfer.Downloader σ} {bound bound' : Option Nat} {baseUrl : String} {width : Int}
    {world' opened opened' : World σ} {fresh : Provider σ}
    (answers : Answers downloader reply) (homes : world'.homes = world.homes)
    (here : world.disk.Clear world.disk.here) (here' : world'.disk.Clear world'.disk.here)
    (created : create index path downloader (.empty bound) baseUrl width world = (.ok provider, opened))
    (created' : create index path downloader (.empty bound') baseUrl width world' = (.ok fresh, opened'))
    (vacant : opened.disk.names provider.directory = [])
    (vacant' : opened'.disk.names fresh.directory = []) (queries : List (Query Float)) :
    provider.answers queries opened = queries.map fun query => (fresh.ask query opened').1 := by
  obtain ⟨dir, kept⟩ := Kept.of_create created here vacant reply
  obtain ⟨dir', kept'⟩ := Kept.of_create created' here' vacant' reply
  obtain ⟨directory, expanded, rfl, -⟩ := create_ok created
  obtain ⟨directory', expanded', rfl, -⟩ := create_ok created'
  rw [homes, expanded] at expanded'
  cases expanded'
  rw [kept.answers answers queries]
  apply List.map_congr_left
  intro query _
  rw [(kept'.ask answers query).answer]
  cases query <;> rfl

open scoped Standin

/-- There and back, with a second look at the first cell on the way, and once more with nothing in the
cache. -/
def excursion : List (Query Float) :=
  [.heightAt ⟨52.9, 4.1⟩, .heightAt ⟨52.9, 4.9⟩, .heightAt ⟨52.1, 5.1⟩, .heightAt ⟨52.9, 4.1⟩, .clear,
    .heightAt ⟨52.9, 4.9⟩]

/-- With room for one tile, the excursion comes to one hit and two evictions. -/
theorem answers_eq_map_fresh_excursion :
    ∃ provider fresh last : Provider Nat,
      create coast ⟨"/", ["tiles"]⟩ quadProvider.downloader (.empty (some 1)) defaultBaseUrl 2 bareWorld =
        (.ok provider, bareWorld) ∧
      create coast ⟨"/", ["tiles"]⟩ quadProvider.downloader (.empty none) defaultBaseUrl 2 bareWorld =
        (.ok fresh, bareWorld) ∧
      provider.answers excursion bareWorld = (excursion.map fun query => (fresh.ask query bareWorld).1) ∧
      provider.answers excursion bareWorld =
        [.height (.ok (some 12)), .height (.ok (some (-7))), .height (.ok none), .height (.ok (some 12)),
          .cleared, .height (.ok (some (-7)))] ∧
      (provider.after excursion bareWorld).1 = last ∧
      last.cache.hits = 1 ∧ last.cache.misses = 4 ∧ last.cache.evictions = 2 := by
  have prepared : prepareDirectory bareWorld ⟨"/", ["tiles"]⟩ = (.ok ⟨"/", ["tiles"]⟩, bareWorld) := rfl
  have created (bound : Option Nat) :
      create coast ⟨"/", ["tiles"]⟩ quadProvider.downloader (.empty bound) defaultBaseUrl 2 bareWorld =
        (.ok (coastProvider bound), bareWorld) := by
    rw [create, prepared]
    rfl
  have here : bareWorld.disk.Clear bareWorld.disk.here := Disk.Tree.clear_nil _
  have located : bareWorld.disk.locate ⟨"/", ["tiles"]⟩ = .ok ["tiles"] := rfl
  have vacant : bareWorld.disk.names ⟨"/", ["tiles"]⟩ = [] := by
    rw [Disk.Tree.names, located]
    simp [bareWorld]
  have steady : Answers quadProvider.downloader
      fun _ _ => ⟨some (Archive.storedArchive quad), .ok ()⟩ := fun _ _ _ => rfl
  have same := answers_eq_map_fresh steady rfl here here (created (some 1)) (created none) vacant vacant
    excursion
  have answered (place : Place Float) (height : Option Int)
      (shown : ((coastProvider none).heightAt place bareWorld).1.toOption = some height) :
      ((coastProvider none).ask (.heightAt place) bareWorld).1 = .height (.ok height) :=
    congrArg Answer.height (eq_ok_of_toOption shown)
  refine ⟨_, _, _, created (some 1), created none, same, same.trans ?_, rfl, by decide +kernel⟩
  simp only [excursion, List.map_cons, List.map_nil]
  rw [answered ⟨52.9, 4.1⟩ (some 12) (by decide +kernel),
    answered ⟨52.9, 4.9⟩ (some (-7)) (by decide +kernel), answered ⟨52.1, 5.1⟩ none (by decide +kernel)]
  rfl

end Elevation.Provider
