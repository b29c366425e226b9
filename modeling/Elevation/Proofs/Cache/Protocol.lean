import Elevation.Proofs.Cache.Gates

/-!
The load protocol. A key is loaded by one thread at a time, and only after that thread has found the
tile missing while it held the gate; whoever waits for the gate keeps it alive, and when the last
call has ended no gate is left.
-/

namespace Elevation.Cache.Loading

variable {τ ε : Type}

/-- Whether a call is between its second look at the cache and the end of its load. -/
def Phase.isExclusive : Phase τ ε → Bool
  | .missed | .loading | .storing _ => true
  | .waiting | .looking | .opening _ | .leaving _ => false

theorem Phase.isInside_of_isExclusive {phase : Phase τ ε} (exclusive : phase.isExclusive = true) :
    phase.isInside = true := by
  cases phase <;> first | rfl | cases exclusive

namespace State

def loads (state : State τ ε) (thread : Thread) (key : Int) : Nat :=
  (state.calls thread).countP fun call => call.isOn key && call.phase.isExclusive

/-- A thread found a key missing while it held the gate of the key, and has not moved since. -/
def Checked (first : State τ ε) (steps : List (Thread × Step τ ε)) (thread : Thread) (key : Int)
    (gate : Nat) : Prop :=
  ∃ before after seen, steps = before ++ (thread, .look) :: after ∧ Ran first before seen ∧
    seen.table.lookup key = some gate ∧ (seen.gates gate).holder = some thread ∧
    seen.cache.find? key = none ∧ ∀ row ∈ after, row.1 ≠ thread

variable {first state next : State τ ε} {steps : List (Thread × Step τ ε)} {thread other : Thread}
  {key : Int} {gate : Nat} {outer : List (Call τ ε)}

/-! ### One thread inside -/

theorem Coherent.holder_of_mem (coherent : Coherent state) {call : Call τ ε}
    (present : call ∈ state.calls thread) (inside : call.phase.isInside = true) :
    (state.gates call.gate).holder = some thread := by
  have fits := coherent.holders call.gate thread
  unfold Gate.Fits at fits
  have counted : 0 < (state.calls thread).countP (Call.isInside call.gate) :=
    List.countP_pos_iff.mpr ⟨call, present, by simp [Call.isInside, inside]⟩
  by_contra free
  rw [if_neg free] at fits
  omega

theorem Coherent.eq_of_inside (coherent : Coherent state) {call call' : Call τ ε}
    (present : call ∈ state.calls thread) (inside : call.phase.isInside = true)
    (present' : call' ∈ state.calls other) (inside' : call'.phase.isInside = true)
    (same : call.key = call'.key) : thread = other := by
  have gates : call.gate = call'.gate := by
    have row := coherent.gated thread call present
    rw [same, coherent.gated other call' present'] at row
    exact (Option.some.inj row).symm
  have holder := coherent.holder_of_mem present inside
  rw [gates, coherent.holder_of_mem present' inside'] at holder
  exact (Option.some.inj holder).symm

theorem Coherent.loads_le_one (coherent : Coherent state) (thread : Thread) (key : Int) :
    state.loads thread key ≤ 1 := by
  by_cases none : state.loads thread key = 0
  · omega
  obtain ⟨call, present, loading⟩ := List.countP_pos_iff.mp (Nat.pos_of_ne_zero none)
  simp only [Call.isOn, Bool.and_eq_true, decide_eq_true_eq] at loading
  have row := coherent.gated thread call present
  have fits := coherent.holders call.gate thread
  have fewer : state.loads thread key ≤ (state.calls thread).countP (Call.isInside call.gate) := by
    apply List.countP_mono_left
    intro call' present' loading'
    simp only [Call.isOn, Bool.and_eq_true, decide_eq_true_eq] at loading'
    have row' := coherent.gated thread call' present'
    rw [loading'.1, ← loading.1, row] at row'
    simp [Call.isInside, (Option.some.inj row').symm, Phase.isInside_of_isExclusive loading'.2]
  unfold Gate.Fits at fits
  split_ifs at fits <;> omega

theorem Coherent.loads_apart (coherent : Coherent state) (busy : 0 < state.loads thread key)
    (busy' : 0 < state.loads other key) : thread = other := by
  obtain ⟨call, present, loading⟩ := List.countP_pos_iff.mp busy
  obtain ⟨call', present', loading'⟩ := List.countP_pos_iff.mp busy'
  simp only [Call.isOn, Bool.and_eq_true, decide_eq_true_eq] at loading loading'
  exact coherent.eq_of_inside present (Phase.isInside_of_isExclusive loading.2) present'
    (Phase.isInside_of_isExclusive loading'.2) (loading.1.trans loading'.1.symm)

/-! ### The gates that are there -/

theorem Coherent.lookup_isSome_iff (coherent : Coherent state) (key : Int) :
    (∃ gate, state.table.lookup key = some gate) ↔
      ∃ thread, ∃ call ∈ state.calls thread, call.key = key := by
  constructor
  · rintro ⟨gate, row⟩
    exact (tally_pos_iff coherent.finite key).mp (coherent.users key gate row).2
  · rintro ⟨thread, call, present, rfl⟩
    exact ⟨call.gate, coherent.gated thread call present⟩

theorem Coherent.table_eq_nil (coherent : Coherent state) (idle : ∀ thread, state.calls thread = []) :
    state.table = [] := by
  rw [List.eq_nil_iff_forall_not_mem]
  intro row present
  have unknown : state.table.lookup row.1 ≠ none := by
    rw [Ne, lookup_eq_none_iff_keys, not_not]
    exact List.mem_map_of_mem present
  obtain ⟨gate, known⟩ := Option.ne_none_iff_exists'.mp unknown
  obtain ⟨thread, call, busy, -⟩ := (coherent.lookup_isSome_iff row.1).mp ⟨gate, known⟩
  simp [idle thread] at busy

/-! ### The check before a load -/

theorem Taken.calls_of_ne {step : Step τ ε} (taken : Taken state thread step next)
    (away : other ≠ thread) : next.calls other = state.calls other := by
  cases taken with
  | register key free absent =>
    unfold State.register gateOf
    cases state.table.lookup key <;> exact setAt_of_ne _ away
  | get | put | clear | hit => rfl
  | _ => exact setAt_of_ne _ away

theorem Taken.look_of_missed {step : Step τ ε} (taken : Taken state thread step next)
    (nested : Nested (state.calls thread))
    (missing : next.calls thread = ⟨key, gate, .missed⟩ :: outer) :
    step = .look ∧ state.calls thread = ⟨key, gate, .looking⟩ :: outer ∧
      state.cache.find? key = none := by
  have stuck : isFree (state.calls thread) = true →
      state.calls thread ≠ ⟨key, gate, .missed⟩ :: outer := by
    intro free top
    rw [top] at free
    cases free
  cases taken with
  | get _ free | put _ _ free | clear free | hit _ _ free => exact absurd missing (stuck free)
  | register name free absent =>
    unfold State.register gateOf at missing
    cases row : state.table.lookup name <;> simp [row, setCall, setGate, setAt_self] at missing
  | missed _ _ _ top absent =>
    simp only [setCall, setAt_self, List.cons.injEq, Call.mk.injEq, and_true] at missing
    obtain ⟨⟨rfl, rfl⟩, rfl⟩ := missing
    exact ⟨rfl, top, absent⟩
  | leave name place rest result top =>
    simp only [finishCall, setAt_self] at missing
    rw [top, missing] at nested
    cases nested _ List.mem_cons_self
  | _ => simp [setCall, setAt_self] at missing

theorem Ran.checked (ran : Ran first steps state) (initial : Coherent first)
    (idle : ∀ thread, first.calls thread = [])
    (missing : state.calls thread = ⟨key, gate, .missed⟩ :: outer) :
    Checked first steps thread key gate := by
  induction ran with
  | nil => simp [idle thread] at missing
  | @snoc steps state next mover step ran stepped ih =>
    have taken := taken_of_step stepped
    have coherent := ran.coherent initial
    by_cases own : thread = mover
    · subst own
      obtain ⟨rfl, top, absent⟩ := taken.look_of_missed (coherent.nested thread) missing
      exact ⟨steps, [], state, rfl, ran, coherent.lookup_top top,
        (coherent.held_of_inside top rfl).1, absent, by simp⟩
    · rw [taken.calls_of_ne own] at missing
      obtain ⟨before, after, seen, split, reached, row, held, absent, still⟩ := ih missing
      refine ⟨before, after ++ [(mover, step)], seen, ?_, reached, row, held, absent, ?_⟩
      · rw [split, List.append_assoc, List.cons_append]
      · intro row present
        rcases List.mem_append.mp present with earlier | last
        · exact still row earlier
        · rw [List.mem_singleton.mp last]
          exact Ne.symm own

def Missing (state : State τ ε) (key : Int) : Prop :=
  ∀ thread gate outer, state.calls thread = ⟨key, gate, .missed⟩ :: outer → state.cache.find? key = none

theorem Missing.taken {step : Step τ ε} (missing : Missing state key) (coherent : Coherent state)
    (taken : Taken state thread step next) (apart : ∀ tile, step ≠ .put key tile) :
    Missing next key := by
  intro owner gate outer top
  by_cases own : owner = thread
  · subst own
    obtain ⟨rfl, -, absent⟩ := taken.look_of_missed (coherent.nested owner) top
    cases taken with
    | found name place rest tile before present =>
      simp [setCall, setAt_self] at top
    | missed => exact absent
  · rw [taken.calls_of_ne own] at top
    have absent := missing owner gate outer top
    cases taken with
    | get name | hit name | found name => exact find?_get_eq_none name absent
    | put name tile =>
      exact find?_put_eq_none tile (fun same => apart tile (same ▸ rfl)) absent
    | clear => rfl
    | store name place rest tile before =>
      -- Two threads would be inside the gate of one key.
      apply find?_put_eq_none tile _ absent
      rintro rfl
      have looked : (⟨key, gate, .missed⟩ : Call τ ε) ∈ state.calls owner := by simp [top]
      have loaded : (⟨key, place, .storing tile⟩ : Call τ ε) ∈ state.calls thread := by simp [before]
      exact own (coherent.eq_of_inside looked rfl loaded rfl rfl)
    | register name free gone =>
      unfold State.register gateOf
      cases state.table.lookup name <;> exact absent
    | _ => exact absent

theorem Ran.missing (ran : Ran first steps state) (initial : Coherent first)
    (idle : ∀ thread, first.calls thread = [])
    (indirect : ∀ thread tile, (thread, Step.put key tile) ∉ steps) : Missing state key := by
  induction ran with
  | nil => simp [Missing, idle]
  | @snoc steps state next mover step ran stepped ih =>
    have before := ih fun thread tile present => indirect thread tile (List.mem_append_left _ present)
    apply before.taken (ran.coherent initial) (taken_of_step stepped)
    rintro tile rfl
    exact indirect mover tile (by simp)

/-! ### The protocol -/

/-- Loads are serialised by key, whatever the order of the threads' steps. -/
theorem Ran.serialises {cache : Cache τ} {steps : List (Thread × Step τ ε)} {state : State τ ε}
    (ran : Ran (start cache) steps state) :
    (∀ key thread, state.loads thread key ≤ 1 ∧
      ∀ other, 0 < state.loads thread key → 0 < state.loads other key → thread = other) ∧
    (∀ key, ((∃ gate, state.table.lookup key = some gate) ↔
        ∃ thread, ∃ call ∈ state.calls thread, call.key = key) ∧
      ∀ gate, state.table.lookup key = some gate →
        (state.gates gate).users = tally state.calls key ∧
        ∀ thread, ∀ call ∈ state.calls thread, call.key = key → call.gate = gate) ∧
    (∀ thread next, state.step? thread .start = some next →
      ∃ key gate outer, state.calls thread = ⟨key, gate, .missed⟩ :: outer ∧
        next.calls thread = ⟨key, gate, .loading⟩ :: outer ∧
        state.table.lookup key = some gate ∧ (state.gates gate).holder = some thread ∧
        Checked (start cache) steps thread key gate ∧
        ((∀ other tile, (other, Step.put key tile) ∉ steps) → state.cache.find? key = none)) ∧
    ((∀ thread, state.calls thread = []) → state.table = []) := by
  have initial : Coherent (start cache : State τ ε) := coherent_start cache
  have idle : ∀ thread, (start cache : State τ ε).calls thread = [] := fun _ => rfl
  have coherent := ran.coherent initial
  refine ⟨?_, ?_, ?_, coherent.table_eq_nil⟩
  · intro key thread
    exact ⟨coherent.loads_le_one thread key, fun other => coherent.loads_apart⟩
  · intro key
    refine ⟨coherent.lookup_isSome_iff key, ?_⟩
    intro gate row
    refine ⟨(coherent.users key gate row).1, ?_⟩
    rintro thread call present rfl
    exact Option.some.inj ((coherent.gated thread call present).symm.trans row)
  · intro thread next stepped
    cases taken_of_step stepped with
    | start key gate outer top =>
      exact ⟨key, gate, outer, top, setAt_self _ _ _, coherent.lookup_top top,
        (coherent.held_of_inside top rfl).1, ran.checked initial idle top,
        fun indirect => ran.missing initial idle indirect thread gate outer top⟩

/-- Two threads ask for one tile; the first load fails, and the second thread is about to retry. -/
def retry : List (Thread × Step Nat Nat) :=
  [(0, .call 5), (1, .call 5), (0, .enter), (0, .look), (0, .start), (0, .finish (.error 7)),
    (0, .release), (1, .enter), (0, .leave), (1, .look)]

theorem serialises_retry :
    Ran (start (empty (some 1))) retry ((start (empty (some 1))).run retry) ∧
      (((start (empty (some 1))).run retry).step? 1 .start).isSome = true ∧
      ((start (empty (some 1))).run retry).cache.find? 5 = none := by
  have ran : Ran (start (empty (some 1))) retry ((start (empty (some 1))).run retry) :=
    ran_of_foldlM rfl
  obtain ⟨key, gate, outer, top, -, -, -, -, absent⟩ := ran.serialises.2.2.1 1 _ rfl
  have name : key = 5 := (Call.mk.inj (List.cons.inj top).1).1.symm
  subst name
  exact ⟨ran, rfl, absent (by simp [retry])⟩

end State

end Elevation.Cache.Loading
