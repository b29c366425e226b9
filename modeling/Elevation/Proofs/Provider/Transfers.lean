import Elevation.Proofs.Provider.Exclusion
import Elevation.Proofs.Provider.Point
import Elevation.Standin.Basic

/-!
Transfers of archives by several threads. At most one thread at a time has to do with a partial file,
whatever the downloader does; and once an archive has been published, no downloader is called for it
again.
-/

namespace Elevation.Provider.Threads

open Elevation.Cache.Loading (Thread Call setAt setAt_self setAt_forall)
open Elevation.Disk (Tree)
open Elevation.Disk.Tree (Settled SameOutside SameBeside)

variable {σ α : Type} [Scalar α] {provider : Provider σ} {place : Place α} {disk next : Tree}
  {dir : Disk.Place} {cell : Cell} {work : Work} {stage after : Stage} {call : Call Tile Failure}
  {job : Job α} {part : Disk.Path} {state : State α} {thread other : Thread}

/-! ### Archives in the directory -/

theorem exists_of_rename (settled : Settled disk provider.directory dir)
    (renamed : disk.rename (provider.directory.child (partName cell))
      (provider.directory.child (archiveName cell)) = .ok next) :
    SameOutside dir disk next ∧
      next.exists? (provider.directory.child (archiveName cell)) = .ok true ∧
      ∀ other, other ≠ cell →
        next.exists? (provider.directory.child (archiveName other)) =
          disk.exists? (provider.directory.child (archiveName other)) := by
  have opens := settled.opens
  obtain ⟨sound, present, rfl⟩ :=
    opens.rename_child_ok (partName_ne_dots cell) (archiveName_ne_dots cell) renamed
  have same := Disk.Tree.sameOutside_move disk dir (partName cell) (archiveName cell)
  have opens' := (settled.same same).opens
  have apart : dir ++ [partName cell] ≠ dir ++ [archiveName cell] := by
    simpa using partName_ne_archiveName cell cell
  refine ⟨same, ?_, fun other away => ?_⟩
  · rw [opens'.exists_child (archiveName_ne_dots cell) sound,
      Disk.Tree.find?_move_target disk (by simp) (by simp) apart, present]
  · apply opens.exists_child_congr opens' (archiveName_ne_dots other)
    apply Disk.Tree.find?_move_of_away disk (by simp)
    · exact fun above => partName_ne_archiveName cell other (prefix_child_iff.mp above)
    · exact fun above => away (archiveName_injective (prefix_child_iff.mp above)).symm

/-- A transfer leaves alone all archives but its own, which it may publish. -/
theorem Advanced.archives [Machine] (advanced : Advanced provider place disk work stage after next)
    (settled : Settled disk provider.directory dir)
    (named : ∀ url fetch, stage = .fetching url fetch →
      provider.pathOf url = provider.directory.child (archiveName cell)) :
    SameOutside dir disk next ∧ ∀ other,
      next.exists? (provider.directory.child (archiveName other)) =
          disk.exists? (provider.directory.child (archiveName other)) ∨
        other = cell ∧ (∃ url, stage = .fetching url .written ∧ after = .stored url) ∧
          next.exists? (provider.directory.child (archiveName other)) = .ok true := by
  have opens := settled.opens
  -- A change to the partial file is seen in no archive.
  have beside {tree : Tree} (same : SameBeside (dir ++ [partName cell]) disk tree) :
      SameOutside dir disk tree ∧ ∀ other,
        tree.exists? (provider.directory.child (archiveName other)) =
          disk.exists? (provider.directory.child (archiveName other)) := by
    refine ⟨same.outside, fun other => ?_⟩
    apply opens.exists_child_congr (settled.same same.outside).opens (archiveName_ne_dots other)
    exact same.find? _ fun above => partName_ne_archiveName cell other (prefix_child_iff.mp above)
  have part {url : String} {fetch : Fetch} (here : stage = .fetching url fetch) :
      partOf provider url = provider.directory.child (partName cell) := by
    rw [partOf, named url fetch here, partialOf_child]
  cases advanced with
  | write url _ spot located same =>
    rw [part rfl] at located
    obtain ⟨-, rfl⟩ := opens.childFault?_of_locate (partName_ne_dots cell) located
    exact (beside same).imp_right fun others other => Or.inl (others other)
  | abandoned url failure _ removed =>
    rw [part rfl] at removed
    obtain rfl := opens.remove_child_ok (partName_ne_dots cell) removed
    exact (beside (Disk.Tree.sameBeside_erase disk (by simp))).imp_right
      fun others other => Or.inl (others other)
  | published url _ renamed =>
    rw [part rfl, named url .written rfl] at renamed
    obtain ⟨same, present, others⟩ := exists_of_rename settled renamed
    refine ⟨same, fun other => ?_⟩
    by_cases own : other = cell
    · exact Or.inr ⟨own, ⟨url, rfl, rfl⟩, own ▸ present⟩
    · exact Or.inl (others other own)
  | _ => exact ⟨.refl dir disk, fun other => Or.inl rfl⟩

/-! ### What has been published stays -/

/-- No archive that is being fetched is in the directory. -/
structure Sound (provider : Provider σ) (dir : Disk.Place) (state : State α) : Prop
    extends Aligned provider state where
  settled : Settled state.disk provider.directory dir
  missing : ∀ thread, ∀ job ∈ state.jobs thread, ∀ url fetch, job.stage = .fetching url fetch →
    state.disk.exists? (provider.pathOf url) = .ok false

theorem Sound.keep {next : State α} (sound : Sound provider dir state) (aligned : Aligned provider next)
    (disk : next.disk = state.disk)
    (jobs : ∀ other, ∀ job ∈ next.jobs other, job ∈ state.jobs other ∨ job.stage = .searching) :
    Sound provider dir next := by
  refine ⟨aligned, disk ▸ sound.settled, fun other job present url fetch fetching => ?_⟩
  rcases jobs other job present with old | searching
  · exact disk ▸ sound.missing other job old url fetch fetching
  · cases searching.symm.trans fetching

section

variable [Scalar.Grounded α]

theorem Matches.named (fits : Matches provider call job) : ∃ cell, ∀ url fetch,
    job.stage = .fetching url fetch →
      provider.pathOf url = provider.directory.child (archiveName cell) := by
  cases stage : job.stage with
  | fetching url fetch =>
    obtain ⟨cell, -, path⟩ := archiveUrl_ok (fits.fetching url fetch stage).2
    refine ⟨cell, ?_⟩
    rintro _ _ ⟨⟩
    exact path
  | _ => exact ⟨⟨0, 0⟩, fun url fetch fetching => by cases fetching⟩

theorem Aligned.named (aligned : Aligned provider state) (present : job ∈ state.jobs thread)
    {url : String} {fetch : Fetch} (fetching : job.stage = .fetching url fetch) :
    ∃ cell, job.place.cell = .ok cell ∧
      provider.pathOf url = provider.directory.child (archiveName cell) := by
  obtain ⟨call, -, fits⟩ := exists_of_forall₂ (aligned.matched thread) present
  exact archiveUrl_ok (fits.fetching url fetch fetching).2

theorem Aligned.alone {job' : Job α} {outer : List (Job α)} (aligned : Aligned provider state)
    (jobs : state.jobs thread = job :: outer) (uses : job.part? provider = some part)
    (present : job' ∈ state.jobs other) (uses' : job'.part? provider = some part) :
    other = thread ∧ job' ∉ outer := by
  have busy : 0 < state.transfers provider part thread :=
    List.countP_pos_iff.mpr ⟨job, by simp [jobs], by simp [uses]⟩
  have busy' : 0 < state.transfers provider part other :=
    List.countP_pos_iff.mpr ⟨job', present, by simp [uses']⟩
  refine ⟨aligned.transfers_apart busy' busy, fun within => ?_⟩
  have one := aligned.transfers_le_one part thread
  have again : 0 < outer.countP fun job => decide (job.part? provider = some part) :=
    List.countP_pos_iff.mpr ⟨job', within, by simp [uses']⟩
  rw [State.transfers, jobs, List.countP_cons, if_pos (by simp [uses])] at one
  omega

variable [Machine]

theorem Sound.archives {outer : List (Job α)} (sound : Sound provider dir state)
    (jobs : state.jobs thread = ⟨place, stage⟩ :: outer)
    (advanced : Advanced provider place state.disk work stage after next) :
    SameOutside dir state.disk next ∧ ∀ cell,
      next.exists? (provider.directory.child (archiveName cell)) =
          state.disk.exists? (provider.directory.child (archiveName cell)) ∨
        (∃ url, stage = .fetching url .written ∧ after = .stored url ∧
          provider.pathOf url = provider.directory.child (archiveName cell)) ∧
          next.exists? (provider.directory.child (archiveName cell)) = .ok true := by
  have present : (⟨place, stage⟩ : Job α) ∈ state.jobs thread := jobs ▸ List.mem_cons_self
  obtain ⟨call, -, fits⟩ := exists_of_forall₂ (sound.matched thread) present
  obtain ⟨own, named⟩ := fits.named
  obtain ⟨same, archives⟩ := advanced.archives sound.settled named
  refine ⟨same, fun cell => (archives cell).imp_right ?_⟩
  rintro ⟨rfl, ⟨url, written, stored⟩, present⟩
  exact ⟨⟨url, written, stored, named url .written written⟩, present⟩

/-- An archive that another load fetches is not the one that this load may publish. -/
theorem Sound.missing_of_other {outer : List (Job α)} (sound : Sound provider dir state)
    (jobs : state.jobs thread = ⟨place, stage⟩ :: outer)
    (advanced : Advanced provider place state.disk work stage after next)
    (present : job ∈ state.jobs other) (others : ¬ (other = thread ∧ job ∉ outer)) {url : String}
    {fetch : Fetch} (fetching : job.stage = .fetching url fetch) :
    next.exists? (provider.pathOf url) = .ok false := by
  have absent := sound.missing other job present url fetch fetching
  obtain ⟨cell, -, path⟩ := sound.named present fetching
  rw [path] at absent ⊢
  rcases (sound.archives jobs advanced).2 cell with unchanged | ⟨⟨url', written, -, path'⟩, -⟩
  · rw [unchanged, absent]
  · have uses : Job.part? provider (⟨place, stage⟩ : Job α) = some (partOf provider url') := by
      rw [Job.part?, written]
    have uses' : job.part? provider = some (partOf provider url') := by
      rw [Job.part?, fetching]
      simp only [partOf, path, path']
    exact absurd (sound.alone jobs uses present uses') others

theorem Sound.step {next : State α} {event : Event α} (sound : Sound provider dir state)
    (stepped : state.step? provider thread event = some next) : Sound provider dir next := by
  have aligned := sound.toAligned.step stepped
  cases moved_of_step stepped with
  | refused | hit | clear | pass => exact sound.keep aligned rfl fun other job old => Or.inl old
  | miss =>
    refine sound.keep aligned rfl ?_
    apply setAt_forall (P := fun other (jobs : List (Job α)) =>
      ∀ job ∈ jobs, job ∈ state.jobs other ∨ job.stage = .searching)
    · intro job present
      rcases List.mem_cons.mp present with rfl | old
      · exact Or.inr rfl
      · exact Or.inl old
    · exact fun other _ job old => Or.inl old
  | leave call calls job outer result loading top jobs leaves taken =>
    refine sound.keep aligned rfl ?_
    apply setAt_forall (P := fun other (jobs : List (Job α)) =>
      ∀ job ∈ jobs, job ∈ state.jobs other ∨ job.stage = .searching)
    · exact fun job old => Or.inl (jobs ▸ List.mem_cons_of_mem _ old)
    · exact fun other _ job old => Or.inl old
  | work call calls place outer work stage after disk top loads jobs advanced =>
    obtain ⟨same, archives⟩ := sound.archives jobs advanced
    refine ⟨aligned, sound.settled.same same, ?_⟩
    apply setAt_forall (P := fun _ (jobs : List (Job α)) => ∀ job ∈ jobs, ∀ url fetch,
      job.stage = .fetching url fetch → disk.exists? (provider.pathOf url) = .ok false)
    · intro job present url fetch fetching
      rcases List.mem_cons.mp present with rfl | old
      · cases fetching
        rcases advanced.fetching with ⟨before, rfl⟩ | ⟨-, rfl, -, absent⟩
        · have here : (⟨place, .fetching url before⟩ : Job α) ∈ state.jobs thread :=
            jobs ▸ List.mem_cons_self
          have absent := sound.missing thread _ here url before rfl
          obtain ⟨cell, -, path⟩ := sound.named here rfl
          rw [path] at absent ⊢
          rcases archives cell with unchanged | ⟨⟨url', -, stored, -⟩, -⟩
          · rw [unchanged, absent]
          · cases stored
        · exact absent
      · exact sound.missing_of_other jobs advanced (jobs ▸ List.mem_cons_of_mem _ old)
          (fun both => both.2 old) fetching
    · intro other away job old url fetch fetching
      exact sound.missing_of_other jobs advanced old (fun both => away both.1) fetching

theorem Sound.stays {next : State α} {event : Event α} (sound : Sound provider dir state)
    (stepped : state.step? provider thread event = some next) (cell : Cell)
    (present : state.disk.exists? (provider.directory.child (archiveName cell)) = .ok true) :
    next.disk.exists? (provider.directory.child (archiveName cell)) = .ok true := by
  cases moved_of_step stepped with
  | work call calls place outer work stage after disk top loads jobs advanced =>
    rcases (sound.archives jobs advanced).2 cell with unchanged | ⟨-, stored⟩
    · exact unchanged.trans present
    · exact stored
  | _ => exact present

end

/-! ### Runs -/

theorem sound_start (cache : Cache Tile) (settled : Settled disk provider.directory dir) :
    Sound provider dir (.start cache disk : State α) :=
  ⟨aligned_start cache disk, settled, fun _ _ present => by cases present⟩

def Stage.stored? : Stage → Option String
  | .stored url => some url
  | _ => none

def Stage.running? : Stage → Option String
  | .fetching url .running => some url
  | _ => none

/-- What the innermost load of a thread is for, and an address at its stage. -/
def State.top? (state : State α) (thread : Thread) (address : Stage → Option String) :
    Option (Place α × String) :=
  (state.jobs thread).head?.bind fun job => (address job.stage).map (job.place, ·)

structure Publishes [Machine] (provider : Provider σ) (state : State α) (thread : Thread) (place : Place α)
    (url : String) (next : State α) : Prop where
  step : state.step? provider thread (.work .publish) = some next
  top : next.top? thread Stage.stored? = some (place, url)

structure Downloads [Machine] (provider : Provider σ) (state : State α) (thread : Thread) (place : Place α)
    (url : String) (next : State α) : Prop where
  step : state.step? provider thread (.work .begin) = some next
  top : next.top? thread Stage.running? = some (place, url)

section

variable [Scalar.Grounded α]

theorem Sound.of_publishes [Machine] {url : String} {next : State α} (sound : Sound provider dir state)
    (publishes : Publishes provider state thread place url next) :
    ∃ cell, place.cell = .ok cell ∧
      provider.pathOf url = provider.directory.child (archiveName cell) ∧
      next.disk.exists? (provider.directory.child (archiveName cell)) = .ok true := by
  obtain ⟨stepped, top⟩ := publishes
  cases moved_of_step stepped with
  | work call calls place' outer work stage after disk called loads jobs advanced =>
    simp only [State.top?, setAt_self, List.head?_cons, Option.bind_some] at top
    have here : (⟨place', stage⟩ : Job α) ∈ state.jobs thread := jobs ▸ List.mem_cons_self
    cases advanced with
    | published url' _ renamed =>
      cases top
      obtain ⟨cell, located, path⟩ := sound.named here rfl
      rw [partOf, path, partialOf_child] at renamed
      exact ⟨cell, located, path, (exists_of_rename sound.settled renamed).2.1⟩
    | unpublished => cases top

theorem Sound.of_downloads [Machine] {url : String} {next : State α} (sound : Sound provider dir state)
    (downloads : Downloads provider state thread place url next) :
    ∃ cell, place.cell = .ok cell ∧
      provider.pathOf url = provider.directory.child (archiveName cell) ∧
      state.disk.exists? (provider.directory.child (archiveName cell)) = .ok false := by
  obtain ⟨stepped, top⟩ := downloads
  cases moved_of_step stepped with
  | work call calls place' outer work stage after disk called loads jobs advanced =>
    simp only [State.top?, setAt_self, List.head?_cons, Option.bind_some] at top
    have here : (⟨place', stage⟩ : Job α) ∈ state.jobs thread := jobs ▸ List.mem_cons_self
    cases advanced with
    | begin =>
      cases top
      obtain ⟨cell, located, path⟩ := sound.named here rfl
      exact ⟨cell, located, path, path ▸ sound.missing thread _ here url .due rfl⟩

end

/-- In every run of threads, at most one load at a time has to do with a partial file; and once the
archive of a cell has been published, no downloader is called for that cell again, whatever leaves
the cache and whatever the archive holds. -/
theorem run_transfers_once [Machine] {cache : Cache Tile} {events : List (Thread × Event Float)}
    {state : State Float} (ran : (State.start cache disk).run? provider events = some state) :
    (∀ part thread, state.transfers provider part thread ≤ 1 ∧
      ∀ other, 0 < state.transfers provider part thread →
        0 < state.transfers provider part other → thread = other) ∧
    ∀ dir, Settled disk provider.directory dir → ∀ thread place url next,
      Publishes provider state thread place url next → ∀ later last, next.run? provider later = some last →
        ∀ other place' url' next', Downloads provider last other place' url' next' →
          place'.cell ≠ place.cell ∧ provider.pathOf url' ≠ provider.pathOf url := by
  have aligned : Aligned provider state :=
    run_keeps (fun _ _ _ _ aligned => aligned.step) (aligned_start cache disk) ran
  refine ⟨fun part thread => ⟨aligned.transfers_le_one part thread, fun other => aligned.transfers_apart⟩,
    ?_⟩
  intro dir settled thread place url next publishes later last ran' other place' url' next' downloads
  have sound : Sound provider dir state :=
    run_keeps (fun _ _ _ _ sound => sound.step) (sound_start cache settled) ran
  obtain ⟨cell, located, path, present⟩ := sound.of_publishes publishes
  -- From here on the archive is there, so it is never found missing.
  obtain ⟨sound', present'⟩ := run_keeps (P := fun state => Sound provider dir state ∧
      state.disk.exists? (provider.directory.child (archiveName cell)) = .ok true)
    (fun _ _ _ _ both stepped => ⟨both.1.step stepped, both.1.stays stepped cell both.2⟩)
    ⟨sound.step publishes.step, present⟩ ran'
  obtain ⟨cell', located', path', absent⟩ := sound'.of_downloads downloads
  have apart : cell' ≠ cell := by
    rintro rfl
    cases present'.symm.trans absent
  refine ⟨fun same => apart ?_, fun same => apart ?_⟩
  · rw [located, located'] at same
    exact Except.ok.inj same
  · rw [path, path'] at same
    exact archiveName_injective (child_injective provider.directory same)

open scoped Standin

def coastal : Provider Nat := { quadProvider with index := coast }

/-- One thread transfers an archive, while another one waits to get the same tile. -/
def transfer : List (Thread × Event Float) :=
  [(0, .ask ⟨52.9, 4.1⟩), (1, .ask ⟨52.1, 4.9⟩), (0, .pass), (0, .pass), (0, .pass),
    (0, .work .search), (0, .work .begin),
    (0, .work (.write (bareWorld.disk.insert ["tiles", "N52E004.hgt.zip.part"] (.file ⟨#[80, 75]⟩)))),
    (0, .work (.finish (.ok ()))), (0, .work .check)]

/-- The archive is damaged. The second thread decodes it once more, and goes on to another cell. -/
def sequel : List (Thread × Event Float) :=
  [(0, .work .decode), (0, .pass), (0, .pass), (1, .pass), (0, .pass), (1, .pass), (1, .pass),
    (1, .work .search), (1, .work .decode), (1, .pass), (1, .pass), (1, .pass), (0, .clear),
    (1, .ask ⟨52.9, 5.1⟩), (1, .pass), (1, .pass), (1, .pass), (1, .work .search)]

theorem run_transfers_once_coastal :
    ∃ state next last next' : State Float, ∃ place url place' url',
      (State.start (.empty (some 1)) bareWorld.disk).run? coastal transfer = some state ∧
      Publishes coastal state 0 place url next ∧ next.run? coastal sequel = some last ∧
      Downloads coastal last 1 place' url' next' ∧ place'.cell ≠ place.cell := by
  have facts : ((State.start (.empty (some 1)) bareWorld.disk).run? coastal transfer).bind (fun state =>
      (state.step? coastal 0 (.work .publish)).bind fun next =>
        (next.top? 0 Stage.stored?).bind fun row =>
          (next.run? coastal sequel).bind fun last =>
            (last.step? coastal 1 (.work .begin)).bind fun next' =>
              (next'.top? 1 Stage.running?).map fun row' => (row.1, row'.1)) =
      some (⟨52.9, 4.1⟩, ⟨52.9, 5.1⟩) := by
    decide +kernel
  simp only [Option.bind_eq_some_iff, Option.map_eq_some_iff] at facts
  obtain ⟨state, ran, next, published, ⟨place, url⟩, top, last, ran', next', called, ⟨place', url'⟩, top', -⟩ :=
    facts
  have publishes : Publishes coastal state 0 place url next := ⟨published, top⟩
  have downloads : Downloads coastal last 1 place' url' next' := ⟨called, top'⟩
  have settled := Disk.Tree.settled_of_plain opens_bareWorld (by decide)
  have apart := (run_transfers_once ran).2 _ settled 0 place url next publishes _ last ran' 1 place' url'
    next' downloads
  exact ⟨state, next, last, next', place, url, place', url', ran, publishes, ran', downloads, apart.1⟩

end Elevation.Provider.Threads
