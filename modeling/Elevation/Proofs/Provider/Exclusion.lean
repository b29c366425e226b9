import Elevation.Proofs.Cache.Protocol
import Elevation.Proofs.Outcome
import Elevation.Proofs.Provider.Promise
import Elevation.Proofs.Provider.Threads

/-!
One transfer at a time. A load that fetches an archive belongs to a call that is at its load, and the
cache lets one call on a key load at a time; since the partial files of different cells are different,
a partial file has to do with one load at most.
-/

namespace Elevation.Provider.Threads

open Elevation.Cache.Loading (Thread Call setAt setAt_self setAt_of_ne setAt_forall)
open Elevation.Cache.Loading.State (Coherent)
open Elevation.Disk (Tree)

variable {σ α : Type} [Scalar α] {provider : Provider σ} {place : Place α} {call : Call Tile Failure}
  {job : Job α} {part : Disk.Path} {state : State α} {thread other : Thread}

/-! ### Calls and their loads -/

/-- A load that belongs to a call: it is for the key of the call, and while it fetches an archive the
call is at its load. -/
structure Matches (provider : Provider σ) (call : Call Tile Failure) (job : Job α) : Prop where
  key : job.place.key = .ok call.key
  fetching : ∀ url fetch, job.stage = .fetching url fetch →
    call.phase = .loading ∧ provider.archiveUrl job.place = .ok url

def Job.part? (provider : Provider σ) (job : Job α) : Option Disk.Path :=
  match job.stage with
  | .fetching url _ => some (partOf provider url)
  | _ => none

def State.transfers (provider : Provider σ) (state : State α) (part : Disk.Path) (thread : Thread) :
    Nat :=
  (state.jobs thread).countP fun job => job.part? provider = some part

theorem child_injective (directory : Disk.Path) : Function.Injective directory.child := by
  intro name other same
  simpa [Disk.Path.child] using same

section

variable [Scalar.Grounded α]

theorem archiveUrl_ok {url : String} (named : provider.archiveUrl place = .ok url) :
    ∃ cell, place.cell = .ok cell ∧
      provider.pathOf url = provider.directory.child (archiveName cell) := by
  rw [archiveUrl_eq] at named
  obtain ⟨⟨partition, cell⟩, found, rfl⟩ := map_eq_ok.mp named
  exact ⟨cell, (held_ok found).2.1, pathOf_urlOf provider partition cell⟩

theorem Matches.exists_cell (fits : Matches provider call job) (uses : job.part? provider = some part) :
    ∃ cell, job.place.cell = .ok cell ∧ call.key = cell.key ∧ call.phase = .loading ∧
      part = provider.directory.child (partName cell) := by
  unfold Job.part? at uses
  split at uses
  next url fetch stage =>
    obtain ⟨loading, named⟩ := fits.fetching url fetch stage
    obtain ⟨cell, located, path⟩ := archiveUrl_ok named
    have key := fits.key
    rw [Place.key, located] at key
    refine ⟨cell, located, (Except.ok.inj key).symm, loading, ?_⟩
    rw [← Option.some.inj uses, partOf, path, partialOf_child]
  next => cases uses

end

theorem countP_le_of_forall₂ {β γ : Type} {R : β → γ → Prop} {p : β → Bool} {q : γ → Bool}
    {left : List β} {right : List γ} (related : List.Forall₂ R left right)
    (implies : ∀ x y, R x y → q y = true → p x = true) : right.countP q ≤ left.countP p := by
  induction related with
  | nil => exact le_rfl
  | @cons x y left right fits rest ih =>
    rw [List.countP_cons, List.countP_cons]
    by_cases holds : q y = true
    · rw [if_pos holds, if_pos (implies x y fits holds)]
      omega
    · rw [if_neg holds]
      omega

theorem exists_of_forall₂ {β γ : Type} {R : β → γ → Prop} {left : List β} {right : List γ} {y : γ}
    (related : List.Forall₂ R left right) (present : y ∈ right) : ∃ x ∈ left, R x y := by
  induction related with
  | nil => cases present
  | @cons x z left right fits rest ih =>
    rcases List.mem_cons.mp present with rfl | later
    · exact ⟨x, List.mem_cons_self, fits⟩
    · obtain ⟨x', found, fits'⟩ := ih later
      exact ⟨x', List.mem_cons_of_mem _ found, fits'⟩

/-! ### One transfer at a time -/

/-- Every load belongs to a call, and the calls keep to the protocol of the cache. -/
structure Aligned (provider : Provider σ) (state : State α) : Prop where
  coherent : Coherent state.loading
  matched : ∀ thread,
    List.Forall₂ (Matches provider) (state.loading.calls thread) (state.jobs thread)

section

variable [Scalar.Grounded α]

theorem Aligned.exists_cell (aligned : Aligned provider state)
    (busy : 0 < state.transfers provider part thread) :
    ∃ cell, part = provider.directory.child (partName cell) := by
  obtain ⟨job, present, uses⟩ := List.countP_pos_iff.mp busy
  obtain ⟨call, -, fits⟩ := exists_of_forall₂ (aligned.matched thread) present
  obtain ⟨cell, -, -, -, same⟩ := fits.exists_cell (of_decide_eq_true uses)
  exact ⟨cell, same⟩

theorem Aligned.transfers_le_loads (aligned : Aligned provider state) (thread : Thread) (cell : Cell) :
    state.transfers provider (provider.directory.child (partName cell)) thread ≤
      state.loading.loads thread cell.key := by
  apply countP_le_of_forall₂ (aligned.matched thread)
  intro call job fits uses
  obtain ⟨cell', -, key, loading, same⟩ := fits.exists_cell (of_decide_eq_true uses)
  obtain rfl := partName_injective (child_injective provider.directory same)
  simp [Cache.Loading.Call.isOn, key, loading, Cache.Loading.Phase.isExclusive]

theorem Aligned.transfers_le_one (aligned : Aligned provider state) (part : Disk.Path)
    (thread : Thread) : state.transfers provider part thread ≤ 1 := by
  by_contra more
  obtain ⟨cell, rfl⟩ := aligned.exists_cell (show 0 < state.transfers provider part thread by omega)
  have fewer := aligned.transfers_le_loads thread cell
  have one := aligned.coherent.loads_le_one thread cell.key
  omega

theorem Aligned.transfers_apart (aligned : Aligned provider state)
    (busy : 0 < state.transfers provider part thread)
    (busy' : 0 < state.transfers provider part other) : thread = other := by
  obtain ⟨cell, rfl⟩ := aligned.exists_cell busy
  exact aligned.coherent.loads_apart (busy.trans_le (aligned.transfers_le_loads thread cell))
    (busy'.trans_le (aligned.transfers_le_loads other cell))

end

/-! ### Steps and runs -/

theorem matched_setAt {calls : Thread → List (Call Tile Failure)} {jobs : Thread → List (Job α)}
    (matched : ∀ thread, List.Forall₂ (Matches provider) (calls thread) (jobs thread))
    {called : List (Call Tile Failure)} {loads : List (Job α)}
    (here : List.Forall₂ (Matches provider) called loads) (other : Thread) :
    List.Forall₂ (Matches provider) (setAt calls thread called other)
      (setAt jobs thread loads other) := by
  by_cases same : other = thread
  · subst same
    rwa [setAt_self, setAt_self]
  · rw [setAt_of_ne _ same, setAt_of_ne _ same]
    exact matched other

theorem Aligned.top {calls : List (Call Tile Failure)} {outer : List (Job α)}
    (aligned : Aligned provider state) (top : state.loading.calls thread = call :: calls)
    (jobs : state.jobs thread = job :: outer) :
    Matches provider call job ∧ List.Forall₂ (Matches provider) calls outer := by
  have both := aligned.matched thread
  rw [top, jobs] at both
  exact List.forall₂_cons.mp both

theorem matches_searching {key : Int} (gate : Nat)
    (valid : (place.validate.bind fun () => place.key) = .ok key) :
    Matches provider ⟨key, gate, .waiting⟩ (⟨place, .searching⟩ : Job α) where
  key := by
    cases checked : place.validate with
    | error failure => simp [checked, Except.bind] at valid
    | ok _ =>
      rw [checked] at valid
      exact valid
  fetching _ _ fetching := by cases fetching

/-- A call may move on unless its load fetches an archive. -/
theorem Matches.rephase (fits : Matches provider call job) (phase : Cache.Loading.Phase Tile Failure)
    (still : ∀ url fetch, call.phase = .loading → job.stage ≠ .fetching url fetch) :
    Matches provider ⟨call.key, call.gate, phase⟩ job where
  key := fits.key
  fetching url fetch fetching :=
    absurd fetching (still url fetch (fits.fetching url fetch fetching).1)

theorem Matches.advance [Machine] {stage after : Stage} {disk next : Tree} {work : Work}
    (fits : Matches provider call ⟨place, stage⟩) (loads : call.phase = .loading)
    (advanced : Advanced provider place disk work stage after next) :
    Matches provider call ⟨place, after⟩ where
  key := fits.key
  fetching := by
    rintro url fetch rfl
    rcases advanced.fetching with ⟨before, rfl⟩ | ⟨-, -, named, -⟩
    · exact fits.fetching url before rfl
    · exact ⟨loads, named⟩

theorem Aligned.step [Machine] {next : State α} {event : Event α} (aligned : Aligned provider state)
    (stepped : state.step? provider thread event = some next) : Aligned provider next := by
  have coherent := aligned.coherent
  cases moved_of_step stepped with
  | refused place failure invalid => exact aligned
  | hit place key loading valid present taken =>
    refine ⟨coherent.taken taken, fun other => ?_⟩
    rcases calls_of_call taken with ⟨-, same⟩ | ⟨absent, -⟩
    · simp only [same]
      exact aligned.matched other
    · rw [present] at absent
      cases absent
  | miss place key loading valid absent taken =>
    refine ⟨coherent.taken taken, fun other => ?_⟩
    rcases calls_of_call taken with ⟨present, -⟩ | ⟨-, gate, pushed⟩
    · rw [absent] at present
      cases present
    · simp only [pushed]
      exact matched_setAt aligned.matched (.cons (matches_searching gate valid) (aligned.matched thread)) other
  | clear loading taken =>
    refine ⟨coherent.taken taken, fun other => ?_⟩
    cases taken
    exact aligned.matched other
  | pass call calls job outer step loading top jobs moves stays taken =>
    obtain ⟨still, phase, moved⟩ := calls_of_pass top moves stays taken
    obtain ⟨fits, rest⟩ := aligned.top top jobs
    refine ⟨coherent.taken taken, ?_⟩
    simp only [moved]
    apply setAt_forall (P := fun other calls => List.Forall₂ (Matches provider) calls (state.jobs other))
    · rw [jobs]
      exact .cons (fits.rephase phase still) rest
    · exact fun other _ => aligned.matched other
  | leave call calls job outer result loading top jobs leaves taken =>
    obtain ⟨-, rest⟩ := aligned.top top jobs
    refine ⟨coherent.taken taken, fun other => ?_⟩
    simp only [calls_of_leave top taken]
    exact matched_setAt aligned.matched rest other
  | work call calls place outer work stage after disk top loads jobs advanced =>
    obtain ⟨fits, rest⟩ := aligned.top top jobs
    refine ⟨coherent, ?_⟩
    apply setAt_forall (P := fun other jobs =>
      List.Forall₂ (Matches provider) (state.loading.calls other) jobs)
    · rw [top]
      exact .cons (fits.advance loads advanced) rest
    · exact fun other _ => aligned.matched other

theorem aligned_start (cache : Cache Tile) (disk : Tree) :
    Aligned provider (.start cache disk : State α) :=
  ⟨Cache.Loading.State.coherent_start cache, fun _ => .nil⟩

end Elevation.Provider.Threads
