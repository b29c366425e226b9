import Elevation.Proofs.Cache.Gates
import Elevation.Proofs.Disk.Settled
import Elevation.Provider.Threads

/-!
What a step of a thread does that asks a provider for tiles. `advanced_of_advance` says it for the steps
of a load, `moved_of_step` for those of a thread; nothing else looks into `advance?` and `step?`.
-/

namespace Elevation.Provider.Threads

open Elevation.Cache.Loading (Thread Phase Call setAt setAt_self)
open Elevation.Cache.Loading.State (Taken)
open Elevation.Disk (Tree)
open Elevation.Disk.Tree (SameBeside)

variable {σ α : Type} [Scalar α] {provider : Provider σ} {place : Place α} {disk next : Tree}
  {work : Work} {stage after : Stage} {state : State α} {thread : Thread}

/-! ### One step of a load -/

/-- What a step of a load does to its stage and to the tree. -/
inductive Advanced [Machine] (provider : Provider σ) (place : Place α) (disk : Tree) :
    Work → Stage → Stage → Tree → Prop where
  | search : Advanced provider place disk .search .searching (search provider place disk) disk
  | begin (url : String) :
      Advanced provider place disk .begin (.fetching url .due) (.fetching url .running) disk
  | write (url : String) (next : Tree) (spot : Disk.Place)
      (located : disk.locate (partOf provider url) = .ok spot) (same : SameBeside spot disk next) :
      Advanced provider place disk (.write next) (.fetching url .running) (.fetching url .running) next
  | returned (url : String) :
      Advanced provider place disk (.finish (.ok ())) (.fetching url .running)
        (.fetching url .returned) disk
  | failed (url : String) (failure : Failure) :
      Advanced provider place disk (.finish (.error failure)) (.fetching url .running)
        (.fetching url (.failing failure)) disk
  | check (url : String) :
      Advanced provider place disk .check (.fetching url .returned)
        (.fetching url (check provider url disk)) disk
  | published (url : String) (next : Tree)
      (renamed : disk.rename (partOf provider url) (provider.pathOf url) = .ok next) :
      Advanced provider place disk .publish (.fetching url .written) (.stored url) next
  | unpublished (url : String) (refusal : Disk.Refusal)
      (refused : disk.rename (partOf provider url) (provider.pathOf url) = .error refusal) :
      Advanced provider place disk .publish (.fetching url .written)
        (.fetching url (.failing (.refused refusal))) disk
  | abandoned (url : String) (failure : Failure) (next : Tree)
      (removed : disk.remove (partOf provider url) = .ok next) :
      Advanced provider place disk .abandon (.fetching url (.failing failure))
        (.done (.error (.retrieval url failure))) next
  | kept (url : String) (failure : Failure) (refusal : Disk.Refusal)
      (refused : disk.remove (partOf provider url) = .error refusal) :
      Advanced provider place disk .abandon (.fetching url (.failing failure))
        (.done (.error (.refused refusal))) disk
  | decode (url : String) :
      Advanced provider place disk .decode (.stored url) (.done (decode provider place url disk)) disk

theorem sameBeside_of_isBeside {spot : Disk.Place} (beside : isBeside disk next spot = true) :
    SameBeside spot disk next := by
  simp only [isBeside, Bool.and_eq_true, decide_eq_true_eq] at beside
  exact Disk.Tree.sameBeside_of_filter beside.1 beside.2

theorem advanced_of_advance [Machine]
    (advanced : advance? provider place work stage disk = some (after, next)) :
    Advanced provider place disk work stage after next := by
  unfold advance? at advanced
  split at advanced
  next =>
    cases advanced
    exact .search
  next url =>
    cases advanced
    exact .begin url
  next tree url =>
    split at advanced
    next => cases advanced
    next spot located =>
      split_ifs at advanced with beside
      cases advanced
      exact .write url _ spot located (sameBeside_of_isBeside beside)
  next result url =>
    split at advanced <;> cases advanced
    · exact .failed url _
    · exact .returned url
  next url =>
    cases advanced
    exact .check url
  next url =>
    split at advanced <;> cases advanced
    next refusal refused => exact .unpublished url refusal refused
    next renamed => exact .published url next renamed
  next url failure =>
    split at advanced <;> cases advanced
    next refusal refused => exact .kept url failure refusal refused
    next removed => exact .abandoned url failure next removed
  next url =>
    cases advanced
    exact .decode url
  next => cases advanced

theorem search_eq_fetching {url : String} {fetch : Fetch}
    (found : search provider place disk = .fetching url fetch) :
    provider.archiveUrl place = .ok url ∧ disk.exists? (provider.pathOf url) = .ok false := by
  unfold search at found
  split at found
  next => cases found
  next => cases found
  next named =>
    split at found <;> cases found
    next absent => exact ⟨named, absent⟩

theorem Advanced.fetching [Machine] {url : String} {fetch : Fetch}
    (advanced : Advanced provider place disk work stage (.fetching url fetch) next) :
    (∃ before, stage = .fetching url before) ∨
      stage = .searching ∧ next = disk ∧ provider.archiveUrl place = .ok url ∧
        disk.exists? (provider.pathOf url) = .ok false := by
  generalize reached : Stage.fetching url fetch = after at advanced
  cases advanced with
  | search =>
    obtain ⟨named, absent⟩ := search_eq_fetching reached.symm
    exact Or.inr ⟨rfl, rfl, named, absent⟩
  | published | abandoned | kept | decode => cases reached
  | _ =>
    cases reached
    exact Or.inl ⟨_, rfl⟩

/-! ### Steps of threads -/

inductive Moved [Machine] (provider : Provider σ) (state : State α) (thread : Thread) :
    Event α → State α → Prop where
  | refused (place : Place α) (failure : Failure)
      (invalid : (place.validate.bind fun () => place.key) = .error failure) :
      Moved provider state thread (.ask place) state
  | hit (place : Place α) (key : Int) (loading : Cache.Loading.State Tile Failure)
      (valid : (place.validate.bind fun () => place.key) = .ok key)
      (present : state.loading.cache.contains key = true)
      (taken : Taken state.loading thread (.call key) loading) :
      Moved provider state thread (.ask place) { state with loading := loading }
  | miss (place : Place α) (key : Int) (loading : Cache.Loading.State Tile Failure)
      (valid : (place.validate.bind fun () => place.key) = .ok key)
      (absent : state.loading.cache.contains key = false)
      (taken : Taken state.loading thread (.call key) loading) :
      Moved provider state thread (.ask place) { state with
        loading := loading
        jobs := setAt state.jobs thread (⟨place, .searching⟩ :: state.jobs thread) }
  | clear (loading : Cache.Loading.State Tile Failure)
      (taken : Taken state.loading thread .clear loading) :
      Moved provider state thread .clear { state with loading := loading }
  | pass (call : Call Tile Failure) (calls : List (Call Tile Failure)) (job : Job α)
      (outer : List (Job α)) (step : Cache.Loading.Step Tile Failure)
      (loading : Cache.Loading.State Tile Failure) (top : state.loading.calls thread = call :: calls)
      (jobs : state.jobs thread = job :: outer) (moves : passage call.phase job.stage = some step)
      (stays : ∀ result, call.phase ≠ .leaving result)
      (taken : Taken state.loading thread step loading) :
      Moved provider state thread .pass { state with loading := loading }
  | leave (call : Call Tile Failure) (calls : List (Call Tile Failure)) (job : Job α)
      (outer : List (Job α)) (result : Except Failure Tile)
      (loading : Cache.Loading.State Tile Failure) (top : state.loading.calls thread = call :: calls)
      (jobs : state.jobs thread = job :: outer) (leaves : call.phase = .leaving result)
      (taken : Taken state.loading thread .leave loading) :
      Moved provider state thread .pass
        { state with loading := loading, jobs := setAt state.jobs thread outer }
  | work (call : Call Tile Failure) (calls : List (Call Tile Failure)) (place : Place α)
      (outer : List (Job α)) (work : Work) (stage after : Stage) (disk : Tree)
      (top : state.loading.calls thread = call :: calls) (loads : call.phase = .loading)
      (jobs : state.jobs thread = ⟨place, stage⟩ :: outer)
      (advanced : Advanced provider place state.disk work stage after disk) :
      Moved provider state thread (.work work)
        { state with disk := disk, jobs := setAt state.jobs thread (⟨place, after⟩ :: outer) }

theorem moved_of_ask [Machine] {next : State α} (stepped : state.ask thread place = some next) :
    Moved provider state thread (.ask place) next := by
  unfold State.ask at stepped
  split at stepped
  next failure invalid =>
    cases stepped
    exact .refused place failure invalid
  next key valid =>
    obtain ⟨loading, moved, rfl⟩ := Option.map_eq_some_iff.mp stepped
    have taken := Cache.Loading.State.taken_of_step moved
    cases present : state.loading.cache.contains key with
    | true => exact .hit place key loading valid present taken
    | false => exact .miss place key loading valid present taken

theorem moved_of_pass [Machine] {next : State α} (stepped : state.pass thread = some next) :
    Moved provider state thread .pass next := by
  unfold State.pass at stepped
  split at stepped
  next key gate phase calls job outer top jobs =>
    obtain ⟨step, moves, stepped⟩ := Option.bind_eq_some_iff.mp stepped
    obtain ⟨loading, moved, rfl⟩ := Option.map_eq_some_iff.mp stepped
    have taken := Cache.Loading.State.taken_of_step moved
    split
    next result _ =>
      cases moves
      exact .leave _ calls job outer result loading top jobs rfl taken
    next stays => exact .pass _ calls job outer step loading top jobs moves stays taken
  next => cases stepped

theorem moved_of_step [Machine] {next : State α} {event : Event α}
    (stepped : state.step? provider thread event = some next) :
    Moved provider state thread event next := by
  cases event with
  | ask place =>
    simp only [State.step?, Option.ite_none_right_eq_some] at stepped
    exact moved_of_ask stepped.2
  | clear =>
    simp only [State.step?, Option.ite_none_right_eq_some] at stepped
    obtain ⟨loading, moved, rfl⟩ := Option.map_eq_some_iff.mp stepped.2
    exact .clear loading (Cache.Loading.State.taken_of_step moved)
  | pass => exact moved_of_pass stepped
  | work work =>
    simp only [State.step?, State.work] at stepped
    split at stepped
    next key gate calls place stage outer top jobs =>
      obtain ⟨⟨after, disk⟩, advanced, rfl⟩ := Option.map_eq_some_iff.mp stepped
      exact .work _ calls place outer work stage after disk top rfl jobs (advanced_of_advance advanced)
    next => cases stepped

/-! ### Calls that move -/

section

variable {call : Call Tile Failure} {loading later : Cache.Loading.State Tile Failure} {key : Int}
  {calls : List (Call Tile Failure)}

theorem calls_of_call (taken : Taken loading thread (.call key) later) :
    loading.cache.contains key = true ∧ later.calls = loading.calls ∨
      loading.cache.contains key = false ∧ ∃ gate,
        later.calls = setAt loading.calls thread (⟨key, gate, .waiting⟩ :: loading.calls thread) := by
  cases taken with
  | hit _ tile free present => exact Or.inl ⟨by simp [Cache.contains, present], rfl⟩
  | register _ free absent =>
    refine Or.inr ⟨by simp [Cache.contains, absent], ?_⟩
    unfold Cache.Loading.State.register Cache.Loading.State.gateOf
    cases loading.table.lookup key <;> exact ⟨_, rfl⟩

theorem calls_of_pass {step : Cache.Loading.Step Tile Failure}
    (top : loading.calls thread = call :: calls) (moves : passage call.phase stage = some step)
    (stays : ∀ result, call.phase ≠ .leaving result) (taken : Taken loading thread step later) :
    (∀ url fetch, call.phase = .loading → stage ≠ .fetching url fetch) ∧
      ∃ phase, later.calls = setAt loading.calls thread (⟨call.key, call.gate, phase⟩ :: calls) := by
  constructor
  · rintro url fetch loads rfl
    rw [loads] at moves
    cases moves
  · have same {key : Int} {gate : Nat} {old new : Phase Tile Failure} {rest : List (Call Tile Failure)}
        (before : loading.calls thread = ⟨key, gate, old⟩ :: rest)
        (moved : later.calls = setAt loading.calls thread (⟨key, gate, new⟩ :: rest)) :
        ∃ phase, later.calls = setAt loading.calls thread (⟨call.key, call.gate, phase⟩ :: calls) := by
      cases top.symm.trans before
      exact ⟨new, moved⟩
    cases taken with
    | enter _ _ _ before _ => exact same before rfl
    | found _ _ _ _ before _ => exact same before rfl
    | missed _ _ _ before _ => exact same before rfl
    | start _ _ _ before => exact same before rfl
    | loaded _ _ _ _ before => exact same before rfl
    | failed _ _ _ _ before => exact same before rfl
    | store _ _ _ _ before => exact same before rfl
    | release _ _ _ _ before => exact same before rfl
    | leave _ _ _ result before =>
      cases top.symm.trans before
      exact absurd rfl (stays result)
    | get | put | clear | hit | register =>
      unfold passage at moves
      split at moves <;> cases moves

theorem calls_of_leave (top : loading.calls thread = call :: calls)
    (taken : Taken loading thread .leave later) :
    later.calls = setAt loading.calls thread calls := by
  cases taken with
  | leave _ _ _ _ before =>
    cases top.symm.trans before
    rfl

end

/-! ### Runs -/

/-- What every step keeps, every run keeps. -/
theorem run_keeps [Machine] {P : State α → Prop} {events : List (Thread × Event α)} {last : State α}
    (kept : ∀ state thread event next, P state → state.step? provider thread event = some next → P next)
    (initial : P state) (ran : state.run? provider events = some last) : P last := by
  induction events generalizing state with
  | nil => exact Option.some.inj ran ▸ initial
  | cons row rest ih =>
    obtain ⟨thread, event⟩ := row
    obtain ⟨next, stepped, ran⟩ := Option.bind_eq_some_iff.mp ran
    exact ih (kept state thread event next initial stepped) ran

end Elevation.Provider.Threads
