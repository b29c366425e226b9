import Elevation.Proofs.Cache.Gates
import Elevation.Proofs.Outcome
import Elevation.Proofs.Provider.Steps
import Elevation.Provider.Threads

/-!
A thread that is alone. What several threads do step by step, a single thread does as a whole: asking
for a tile is one of the runs of a provider with threads, with the downloader that the provider has.
-/

namespace Elevation.Provider.Threads

open Relation (ReflTransGen)
open Elevation.Cache.Loading (Thread Phase Call setAt setAt_self setAt_of_ne)
open Elevation.Disk (Tree)

variable {σ α : Type} [Scalar α] {provider : Provider σ} {place : Place α} {world : World σ}
  {disk next : Tree} {url : String}

/-! ### One load -/

def Advances [Machine] (provider : Provider σ) (place : Place α) (before after : Stage × Tree) : Prop :=
  ∃ work, advance? provider place work before.1 before.2 = some after

theorem isBeside_insert (disk : Tree) (spot : Disk.Place) (node : Disk.Node) :
    isBeside disk (disk.insert spot node) spot = true := by
  have rows : rowsBeside (disk.insert spot node) spot = rowsBeside disk spot := by
    unfold rowsBeside Disk.Tree.insert
    rw [List.filter_cons_of_neg (by simp), List.filter_filter]
    apply List.filter_congr
    intro row _
    by_cases same : row.1 = spot
    · simp [same]
    · simp [same]
  unfold isBeside
  rw [rows]
  simp [Disk.Tree.insert]

theorem advances_deposit [Machine] (provider : Provider σ) (place : Place α) (url : String) (disk : Tree)
    (content : Option ByteArray) :
    ReflTransGen (Advances provider place) (.fetching url .running, disk)
      (.fetching url .running, deposit disk (partOf provider url) content) := by
  cases content with
  | none => exact .refl
  | some bytes =>
    unfold deposit
    simp only
    cases written : disk.write (partOf provider url) bytes with
    | error refusal => exact .refl
    | ok next =>
      obtain ⟨spot, writable, rfl⟩ := map_eq_ok.mp written
      have located : disk.locate (partOf provider url) = .ok spot := by
        unfold Disk.Tree.writable at writable
        split at writable
        next => cases writable
        next located =>
          split_ifs at writable
          · cases writable
          · cases writable
          · exact located.trans (congrArg _ (Except.ok.inj writable))
      refine .single ⟨.write (disk.insert spot (.file bytes)), ?_⟩
      simp only [advance?, located, isBeside_insert, if_true]

def reached (url : String) : Except Failure Disk.Path → Stage
  | .error failure => .done (.error failure)
  | .ok _ => .stored url

theorem advances_abandon [Machine] (provider : Provider σ) (place : Place α) (url : String) (failure : Failure)
    (world : World σ) :
    Advances provider place (.fetching url (.failing failure), world.disk)
      (reached url (abandon world (partOf provider url) url failure).1,
        (abandon world (partOf provider url) url failure).2.disk) := by
  refine ⟨.abandon, ?_⟩
  unfold abandon
  simp only [advance?]
  cases world.disk.remove (partOf provider url) <;> rfl

theorem advances_publish [Machine] (provider : Provider σ) (place : Place α) (url : String) (world : World σ)
    (result : Except Failure Unit) :
    ReflTransGen (Advances provider place) (.fetching url .running, world.disk)
      (match publish world.disk (partOf provider url) (provider.pathOf url) result with
      | .error failure =>
        (reached url (abandon world (partOf provider url) url failure).1,
          (abandon world (partOf provider url) url failure).2.disk)
      | .ok disk => (.stored url, disk)) := by
  have failing (failure : Failure) := advances_abandon provider place url failure world
  cases result with
  | error failure => exact .head ⟨.finish (.error failure), rfl⟩ (.single (failing failure))
  | ok _ =>
    refine .head ⟨.finish (.ok ()), rfl⟩ (.head ⟨.check, rfl⟩ ?_)
    unfold publish check
    simp only
    cases present : world.disk.exists? (partOf provider url) with
    | error refusal => exact .single (failing _)
    | ok there =>
      cases there with
      | false => exact .single (failing _)
      | true =>
        cases renamed : world.disk.rename (partOf provider url) (provider.pathOf url) with
        | error refusal =>
          refine .head ⟨.publish, ?_⟩ (.single (failing (.refused refusal)))
          simp only [advance?, renamed]
        | ok next =>
          refine .single ⟨.publish, ?_⟩
          simp only [advance?, renamed, Except.mapError]

theorem advances_download [Machine] (provider : Provider σ) (place : Place α) (url : String) (world : World σ) :
    ReflTransGen (Advances provider place) (.fetching url .due, world.disk)
      (reached url (provider.download url (provider.pathOf url) world).1,
        (provider.download url (provider.pathOf url) world).2.disk) := by
  refine .head ⟨.begin, rfl⟩ ?_
  rcases delivered : provider.downloader url
    ((world.disk.writable (partOf provider url)).map fun _ => ()) world.far with ⟨⟨content, result⟩, far⟩
  refine (advances_deposit provider place url world.disk content).trans ?_
  unfold partOf at delivered
  simp only [download, World.note, delivered]
  -- The notes in the log make no difference.
  have published := advances_publish provider place url
    ⟨deposit world.disk (partOf provider url) content, world.homes, world.bundled, far,
      (world.note .info fetchLog ("Downloading " ++ url ++ " -> " ++ (provider.pathOf url).text)).log⟩ result
  simp only [partOf, World.note] at published ⊢
  convert published using 1
  cases publish _ _ _ result <;> rfl

theorem ensureArchive_ok {path : Disk.Path} (named : provider.archiveUrl place = .ok url)
    (ensured : (provider.ensureArchive place world).1 = .ok path) : path = provider.pathOf url := by
  unfold ensureArchive at ensured
  simp only [named] at ensured
  split at ensured
  next => cases ensured
  next => exact (Except.ok.inj ensured).symm
  next =>
    unfold download at ensured
    simp only at ensured
    split at ensured
    next =>
      unfold abandon at ensured
      split at ensured <;> cases ensured
    next => exact (Except.ok.inj ensured).symm

theorem advances_ensureArchive [Machine] {cell : Cell} (world : World σ) (located : place.cell = .ok cell)
    (named : provider.archiveUrl place = .ok url) :
    ReflTransGen (Advances provider place) (.searching, world.disk)
      (reached url (provider.ensureArchive place world).1,
        (provider.ensureArchive place world).2.disk) := by
  refine .head ⟨.search, rfl⟩ ?_
  unfold ensureArchive search
  simp only [located, named]
  cases world.disk.exists? (provider.pathOf url) with
  | error refusal => exact .refl
  | ok there =>
    cases there with
    | true => exact .refl
    | false => exact advances_download provider place url world

/-- Loading a tile as a whole is one way to take the steps of a load. -/
theorem advances_loadTile [Machine] (provider : Provider σ) (place : Place α) (world : World σ) :
    ReflTransGen (Advances provider place) (.searching, world.disk)
      (.done (provider.loadTile place world).1, (provider.loadTile place world).2.disk) := by
  cases located : place.cell with
  | error failure =>
    refine .single ⟨.search, ?_⟩
    simp only [advance?, search, loadTile, located]
  | ok cell =>
    rw [loadTile_eq located, (materialize_eq provider place world).1]
    simp only [(materialize_eq provider place world).2]
    cases named : provider.archiveUrl place with
    | error failure =>
      refine .single ⟨.search, ?_⟩
      simp only [advance?, search, ensureArchive, located, named, Except.bind]
    | ok url =>
      have ensured := advances_ensureArchive world located named
      cases found : (provider.ensureArchive place world).1 with
      | error failure =>
        rw [found] at ensured
        exact ensured
      | ok path =>
        obtain rfl := ensureArchive_ok named found
        rw [found] at ensured
        refine ensured.tail ⟨.decode, ?_⟩
        simp only [advance?, reached, decode, located, Except.bind]
        cases Tile.decode (provider.pathOf url).text
          ((provider.ensureArchive place world).2.disk.read (provider.pathOf url)) provider.width <;> rfl

/-! ### One thread -/

variable {state : State α} {thread : Thread} {key : Int} {gate : Nat}
  {calls : List (Call Tile Failure)} {outer : List (Job α)} {result : Except Failure Tile}
  {later : Cache.Loading.State Tile Failure} {cache : Cache Tile}

def Moves [Machine] (provider : Provider σ) (thread : Thread) (before after : State α) : Prop :=
  ∃ event, before.step? provider thread event = some after

theorem setAt_setAt {β : Type} (f : Nat → β) (place : Nat) (old new : β) :
    setAt (setAt f place old) place new = setAt f place new := by
  funext other
  by_cases same : other = place
  · rw [same, setAt_self, setAt_self]
  · rw [setAt_of_ne _ same, setAt_of_ne _ same, setAt_of_ne _ same]

theorem moves_of_advances [Machine] {before after : Stage × Tree} (state : State α) (outer : List (Job α))
    (top : state.loading.calls thread = ⟨key, gate, .loading⟩ :: calls)
    (steps : ReflTransGen (Advances provider place) before after) :
    ReflTransGen (Moves provider thread)
      { state with disk := before.2, jobs := setAt state.jobs thread (⟨place, before.1⟩ :: outer) }
      { state with disk := after.2, jobs := setAt state.jobs thread (⟨place, after.1⟩ :: outer) } := by
  refine steps.lift (fun load : Stage × Tree => { state with
    disk := load.2, jobs := setAt state.jobs thread (⟨place, load.1⟩ :: outer) }) ?_
  rintro before after ⟨work, advanced⟩
  refine ⟨.work work, ?_⟩
  simp only [State.step?, State.work, top, setAt_self, advanced, Option.map_some, setAt_setAt]

theorem moves_of_pass [Machine] {phase : Phase Tile Failure} {job : Job α} {step : Cache.Loading.Step Tile Failure}
    (top : state.loading.calls thread = ⟨key, gate, phase⟩ :: calls)
    (jobs : state.jobs thread = job :: outer) (moves : passage phase job.stage = some step)
    (stays : ∀ result, phase ≠ .leaving result)
    (stepped : state.loading.step? thread step = some later) :
    Moves provider thread state { state with loading := later } := by
  refine ⟨.pass, ?_⟩
  simp only [State.step?, State.pass, top, jobs, moves, Option.bind_some, stepped, Option.map_some]

/-- A thread can end its innermost call with a result, the cache being as given then. -/
def Ends [Machine] (provider : Provider σ) (thread : Thread) (state : State α) (calls : List (Call Tile Failure))
    (outer : List (Job α)) (cache : Cache Tile) (result : Except Failure Tile) : Prop :=
  ∃ last, ReflTransGen (Moves provider thread) state last ∧ last.disk = state.disk ∧
    last.loading.cache = cache ∧ last.loading.results = (thread, result) :: state.loading.results ∧
    last.loading.calls thread = calls ∧ last.jobs thread = outer

theorem Ends.head [Machine] {next : State α} (ends : Ends provider thread next calls outer cache result)
    (moves : Moves provider thread state next) (disk : next.disk = state.disk)
    (results : next.loading.results = state.loading.results) :
    Ends provider thread state calls outer cache result := by
  obtain ⟨last, steps, disk', stored, results', called, jobs⟩ := ends
  exact ⟨last, .head moves steps, disk'.trans disk, stored, results ▸ results', called, jobs⟩

variable {job : Job α}

theorem ends_of_leaving [Machine] (provider : Provider σ) (state : State α)
    (top : state.loading.calls thread = ⟨key, gate, .leaving result⟩ :: calls)
    (jobs : state.jobs thread = job :: outer) :
    Ends provider thread state calls outer state.loading.cache result := by
  have left : state.loading.step? thread .leave = some
      (state.loading.finishCall thread ⟨key, gate, .leaving result⟩ calls result) := by
    simp only [Cache.Loading.State.step?, top]
  refine ⟨{ state with
    loading := state.loading.finishCall thread ⟨key, gate, .leaving result⟩ calls result
    jobs := setAt state.jobs thread outer }, .single ⟨.pass, ?_⟩, rfl, rfl, rfl, setAt_self _ _ _,
    setAt_self _ _ _⟩
  simp only [State.step?, State.pass, top, jobs, passage, Option.bind_some, left, Option.map_some]

theorem ends_of_opening [Machine] (provider : Provider σ) (state : State α)
    (top : state.loading.calls thread = ⟨key, gate, .opening result⟩ :: calls)
    (jobs : state.jobs thread = job :: outer) :
    Ends provider thread state calls outer state.loading.cache result := by
  have released : state.loading.step? thread .release = some
      ((state.loading.setGate gate { state.loading.gates gate with holder := none }).setCall thread
        ⟨key, gate, .leaving result⟩ calls) := by
    simp only [Cache.Loading.State.step?, top]
  have ends := ends_of_leaving provider ({ state with
    loading := (state.loading.setGate gate { state.loading.gates gate with holder := none }).setCall
      thread ⟨key, gate, .leaving result⟩ calls }) (setAt_self _ _ _) jobs
  exact ends.head (moves_of_pass top jobs rfl (by simp) released) rfl rfl

theorem ends_of_storing [Machine] {tile : Tile} (provider : Provider σ) (state : State α)
    (top : state.loading.calls thread = ⟨key, gate, .storing tile⟩ :: calls)
    (jobs : state.jobs thread = job :: outer) :
    Ends provider thread state calls outer (state.loading.cache.put key tile) (.ok tile) := by
  have stored : state.loading.step? thread .store = some
      ({ state.loading with cache := state.loading.cache.put key tile }.setCall thread
        ⟨key, gate, .opening (.ok tile)⟩ calls) := by
    simp only [Cache.Loading.State.step?, top]
  have ends := ends_of_opening provider ({ state with
    loading := { state.loading with cache := state.loading.cache.put key tile }.setCall thread
      ⟨key, gate, .opening (.ok tile)⟩ calls }) (setAt_self _ _ _) jobs
  exact ends.head (moves_of_pass top jobs rfl (by simp) stored) rfl rfl

def settle (cache : Cache Tile) (key : Int) : Except Failure Tile → Cache Tile
  | .error _ => cache
  | .ok tile => cache.put key tile

theorem ends_of_done [Machine] (provider : Provider σ) (state : State α)
    (top : state.loading.calls thread = ⟨key, gate, .loading⟩ :: calls)
    (jobs : state.jobs thread = ⟨place, .done result⟩ :: outer) :
    Ends provider thread state calls outer (settle state.loading.cache key result) result := by
  cases result with
  | error failure =>
    have finished : state.loading.step? thread (.finish (.error failure)) = some
        (state.loading.setCall thread ⟨key, gate, .opening (.error failure)⟩ calls) := by
      simp only [Cache.Loading.State.step?, top]
    have ends := ends_of_opening provider ({ state with
      loading := state.loading.setCall thread ⟨key, gate, .opening (.error failure)⟩ calls })
      (setAt_self _ _ _) jobs
    exact ends.head (moves_of_pass top jobs rfl (by simp) finished) rfl rfl
  | ok tile =>
    have finished : state.loading.step? thread (.finish (.ok tile)) = some
        (state.loading.setCall thread ⟨key, gate, .storing tile⟩ calls) := by
      simp only [Cache.Loading.State.step?, top]
    have ends := ends_of_storing provider ({ state with
      loading := state.loading.setCall thread ⟨key, gate, .storing tile⟩ calls })
      (setAt_self _ _ _) jobs
    exact ends.head (moves_of_pass top jobs rfl (by simp) finished) rfl rfl

/-- A thread can start the load of its innermost call, the cache being as given then. -/
def Starts [Machine] (provider : Provider σ) (thread : Thread) (state : State α) (key : Int) (gate : Nat)
    (calls : List (Call Tile Failure)) (cache : Cache Tile) : Prop :=
  ∃ loading, ReflTransGen (Moves provider thread) state { state with loading := loading } ∧
    loading.calls thread = ⟨key, gate, .loading⟩ :: calls ∧ loading.cache = cache ∧
    loading.results = state.loading.results

theorem Starts.head [Machine] (starts : Starts provider thread { state with loading := later } key gate calls cache)
    (moves : Moves provider thread state { state with loading := later })
    (results : later.results = state.loading.results) :
    Starts provider thread state key gate calls cache := by
  obtain ⟨loading, steps, top, stored, results'⟩ := starts
  exact ⟨loading, .head moves steps, top, stored, results'.trans results⟩

theorem starts_of_missed [Machine] (provider : Provider σ) (state : State α)
    (top : state.loading.calls thread = ⟨key, gate, .missed⟩ :: calls)
    (jobs : state.jobs thread = job :: outer) :
    Starts provider thread state key gate calls state.loading.cache := by
  have started : state.loading.step? thread .start = some
      (state.loading.setCall thread ⟨key, gate, .loading⟩ calls) := by
    simp only [Cache.Loading.State.step?, top]
  exact ⟨_, .single (moves_of_pass top jobs rfl (by simp) started), setAt_self _ _ _, rfl, rfl⟩

theorem starts_of_looking [Machine] (provider : Provider σ) (state : State α)
    (top : state.loading.calls thread = ⟨key, gate, .looking⟩ :: calls)
    (jobs : state.jobs thread = job :: outer) (absent : state.loading.cache.find? key = none) :
    Starts provider thread state key gate calls state.loading.cache.miss := by
  have missed : state.loading.step? thread .look = some
      ({ state.loading with cache := state.loading.cache.miss }.setCall thread
        ⟨key, gate, .missed⟩ calls) := by
    simp only [Cache.Loading.State.step?, top, Cache.get_of_absent absent]
  have starts := starts_of_missed provider { state with
    loading := { state.loading with cache := state.loading.cache.miss }.setCall thread
      ⟨key, gate, .missed⟩ calls } (setAt_self _ _ _) jobs
  exact starts.head (moves_of_pass top jobs rfl (by simp) missed) rfl

theorem starts_of_waiting [Machine] (provider : Provider σ) (state : State α)
    (top : state.loading.calls thread = ⟨key, gate, .waiting⟩ :: calls)
    (jobs : state.jobs thread = job :: outer) (unheld : (state.loading.gates gate).holder = none)
    (absent : state.loading.cache.find? key = none) :
    Starts provider thread state key gate calls state.loading.cache.miss := by
  have entered : state.loading.step? thread .enter = some
      ((state.loading.setGate gate { state.loading.gates gate with holder := some thread }).setCall
        thread ⟨key, gate, .looking⟩ calls) := by
    simp only [Cache.Loading.State.step?, top, unheld]
  have starts := starts_of_looking provider { state with
    loading := (state.loading.setGate gate { state.loading.gates gate with
      holder := some thread }).setCall thread ⟨key, gate, .looking⟩ calls } (setAt_self _ _ _) jobs absent
  exact starts.head (moves_of_pass top jobs rfl (by simp) entered) rfl

/-! ### One call -/

theorem exists_run [Machine] {first last : State α} (steps : ReflTransGen (Moves provider thread) first last) :
    ∃ events, first.run? provider events = some last := by
  induction steps using ReflTransGen.head_induction_on with
  | refl => exact ⟨[], rfl⟩
  | head moves _ ih =>
    obtain ⟨event, stepped⟩ := moves
    obtain ⟨events, ran⟩ := ih
    exact ⟨(thread, event) :: events, by rw [State.run?, stepped, Option.bind_some, ran]⟩

/-- From a call that registers to its end, with everything that the load does in between. -/
theorem ends_of_absent [Machine] (provider : Provider σ) {place : Place α} {cell : Cell} (world : World σ)
    (thread : Thread) (valid : place.validate = .ok ()) (located : place.cell = .ok cell)
    (absent : provider.cache.find? cell.key = none) :
    ∃ last : State α, ReflTransGen (Moves provider thread) (.start provider.cache world.disk) last ∧
      last.disk = (provider.loadTile place world).2.disk ∧
      last.loading.cache =
        settle provider.cache.miss cell.key (provider.loadTile place world).1 ∧
      last.loading.results = [(thread, (provider.loadTile place world).1)] ∧
      last.loading.calls thread = [] ∧ last.jobs thread = [] := by
  have asked : Moves provider thread (.start provider.cache world.disk)
      (⟨(Cache.Loading.State.start provider.cache).register thread cell.key, world.disk,
        setAt (fun _ => []) thread [⟨place, .searching⟩]⟩ : State α) := by
    refine ⟨.ask place, ?_⟩
    simp [State.step?, State.ask, State.start, isFree, valid, Place.key, located, Except.bind,
      Except.map, Cache.Loading.State.step?, Cache.Loading.State.start, Cache.Loading.isFree,
      Cache.Loading.State.begin, Cache.get_of_absent absent, Cache.contains, absent]
  have top : ((Cache.Loading.State.start provider.cache).register thread cell.key :
      Cache.Loading.State Tile Failure).calls thread = [⟨cell.key, 0, .waiting⟩] := setAt_self _ _ _
  have own (stage : Stage) : setAt (fun _ => []) thread [(⟨place, stage⟩ : Job α)] thread = [⟨place, stage⟩] :=
    setAt_self _ _ _
  obtain ⟨loading, starts, top, stored, results⟩ := starts_of_waiting provider
    ⟨(Cache.Loading.State.start provider.cache).register thread cell.key, world.disk,
      setAt (fun _ => []) thread [⟨place, .searching⟩]⟩ top (own .searching) rfl absent
  have loads := moves_of_advances ⟨loading, world.disk, fun _ => []⟩ [] top
    (advances_loadTile provider place world)
  obtain ⟨last, ends, disk, stored', results', called, jobs⟩ := ends_of_done provider
    (⟨loading, (provider.loadTile place world).2.disk, setAt (fun _ => []) thread
      [⟨place, .done (provider.loadTile place world).1⟩]⟩ : State α) top (own _)
  refine ⟨last, .head asked (starts.trans (loads.trans ends)), disk, ?_, ?_, called, jobs⟩
  · rw [stored', stored]
    rfl
  · rw [results', results]
    rfl

/-- Asking for a tile as a whole is one of the runs of threads. -/
theorem exists_run_tileAt [Machine] (provider : Provider σ) {place : Place α} {cell : Cell} (world : World σ)
    (thread : Thread) (valid : place.validate = .ok ()) (located : place.cell = .ok cell) :
    ∃ events, ∃ last : State α,
      (State.start provider.cache world.disk).run? provider events = some last ∧
      last.disk = (provider.tileAt place world).2.2.disk ∧
      last.loading.cache = (provider.tileAt place world).2.1.cache ∧
      last.loading.results = [(thread, (provider.tileAt place world).1)] ∧
      last.loading.calls thread = [] ∧ last.jobs thread = [] := by
  cases cached : provider.cache.find? cell.key with
  | some tile =>
    have called : (State.start provider.cache world.disk).step? provider thread (.ask place) =
        some ⟨{ Cache.Loading.State.start provider.cache with
          cache := (provider.cache.placeLast cell.key tile).hit, results := [(thread, .ok tile)] },
          world.disk, fun _ => []⟩ := by
      simp [State.step?, State.ask, State.start, isFree, valid, Place.key, located, Except.bind,
        Except.map, Cache.Loading.State.step?, Cache.Loading.State.start, Cache.Loading.isFree,
        Cache.Loading.State.begin, Cache.get, Cache.contains, cached]
    rw [tileAt_of_find? valid located cached]
    exact ⟨[(thread, .ask place)], _, by rw [State.run?, called]; rfl, rfl, rfl, rfl, rfl, rfl⟩
  | none =>
    obtain ⟨last, steps, disk, stored, results, called, jobs⟩ :=
      ends_of_absent provider world thread valid located cached
    obtain ⟨events, ran⟩ := exists_run steps
    refine ⟨events, last, ran, ?_⟩
    cases loaded : (provider.loadTile place world).1 with
    | error failure =>
      rw [loaded] at stored results
      rw [tileAt_of_failed valid located cached loaded]
      exact ⟨disk, stored, results, called, jobs⟩
    | ok tile =>
      rw [loaded] at stored results
      rw [tileAt_of_loaded valid located cached loaded]
      exact ⟨disk, stored, results, called, jobs⟩

end Elevation.Provider.Threads
