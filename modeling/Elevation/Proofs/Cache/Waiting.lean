import Elevation.Proofs.Cache.Protocol

/-!
Threads that load never wait for each other's gates in a circle. As long as a load asks only for keys
above its own, whoever holds the gate that a thread waits for waits itself at most for the gate of a
higher key. Calls are under way on finitely many keys, so one of them waits for nothing.
-/

namespace Elevation.Cache.Loading

variable {τ ε : Type}

/-- The steps with which a call goes on. A load may turn to the cache as it likes, and ends with any
result. -/
def Phase.isNext : Phase τ ε → Step τ ε → Bool
  | .waiting, .enter | .looking, .look | .missed, .start | .storing _, .store
  | .opening _, .release | .leaving _, .leave => true
  | .loading, .get _ | .loading, .put .. | .loading, .clear | .loading, .call _
  | .loading, .finish _ => true
  | _, _ => false

theorem Phase.exists_isNext (phase : Phase τ ε) : ∃ step : Step τ ε, phase.isNext step = true := by
  cases phase with
  | waiting => exact ⟨.enter, rfl⟩
  | looking => exact ⟨.look, rfl⟩
  | missed => exact ⟨.start, rfl⟩
  | loading => exact ⟨.clear, rfl⟩
  | storing tile => exact ⟨.store, rfl⟩
  | opening result => exact ⟨.release, rfl⟩
  | leaving result => exact ⟨.leave, rfl⟩

/-- The keys of a thread's calls go up in an order, the innermost call having the highest one. -/
def Rising (order : Int → Int → Prop) (calls : List (Call τ ε)) : Prop :=
  (calls.map Call.key).Pairwise fun inner outer => order outer inner

variable {order : Int → Int → Prop} {key : Int} {gate : Nat} {outer calls : List (Call τ ε)}

theorem Rising.cons [IsTrans Int order] (rising : Rising order calls)
    (above : ∀ call ∈ calls.head?, order call.key key) (gate : Nat) (phase : Phase τ ε) :
    Rising order (⟨key, gate, phase⟩ :: calls) := by
  unfold Rising at rising ⊢
  rw [List.map_cons, List.pairwise_cons]
  refine ⟨?_, rising⟩
  match calls with
  | [] => simp
  | first :: rest =>
    have highest : order first.key key := above first rfl
    rw [List.map_cons, List.pairwise_cons] at rising
    intro name present
    rcases List.mem_cons.mp present with rfl | later
    · exact highest
    · exact IsTrans.trans _ _ _ (rising.1 name later) highest

theorem Rising.rephase {old : Phase τ ε} (rising : Rising order (⟨key, gate, old⟩ :: outer))
    (new : Phase τ ε) : Rising order (⟨key, gate, new⟩ :: outer) := rising

theorem Rising.tail {first : Call τ ε} (rising : Rising order (first :: calls)) :
    Rising order calls := (List.pairwise_cons.mp rising).2

theorem Rising.below {first call : Call τ ε} (rising : Rising order (first :: calls))
    (inside : call ∈ calls) : order call.key first.key :=
  (List.pairwise_cons.mp rising).1 call.key (List.mem_map_of_mem inside)

namespace State

/-- A call from inside a load is on a key above the key of that load. -/
def Ascends (order : Int → Int → Prop) (state : State τ ε) (thread : Thread) : Step τ ε → Prop
  | .call key => ∀ call ∈ (state.calls thread).head?, order call.key key
  | _ => True

def Blocked (state : State τ ε) (thread : Thread) (key : Int) : Prop :=
  ∃ gate outer holder, state.calls thread = ⟨key, gate, .waiting⟩ :: outer ∧
    (state.gates gate).holder = some holder

def Unblocked (state : State τ ε) (thread : Thread) : Prop :=
  ∃ call outer, state.calls thread = call :: outer ∧
    (call.phase = .waiting → (state.gates call.gate).holder = none)

instance [DecidableRel order] (state : State τ ε) (thread : Thread) (step : Step τ ε) :
    Decidable (state.Ascends order thread step) :=
  match step with
  | .call key => inferInstanceAs (Decidable (∀ call ∈ (state.calls thread).head?, order call.key key))
  | .get _ | .put .. | .clear | .enter | .look | .start | .finish _ | .store | .release | .leave =>
    isTrue trivial

variable {state next : State τ ε} {thread : Thread} {step : Step τ ε}

theorem Unblocked.busy (unblocked : Unblocked state thread) : state.calls thread ≠ [] := by
  obtain ⟨call, outer, top, -⟩ := unblocked
  rw [top]
  exact List.cons_ne_nil call outer

/-! ### Calls inside calls -/

theorem Taken.rising [IsTrans Int order] (taken : Taken state thread step next)
    (ascends : Ascends order state thread step)
    (rising : ∀ thread, Rising order (state.calls thread)) :
    ∀ thread, Rising order (next.calls thread) := by
  intro other
  by_cases own : other = thread
  · subst own
    have before := rising other
    cases taken with
    | get | put | clear | hit => exact before
    | register key free absent =>
      unfold State.register gateOf
      have within := before.cons ascends
      cases state.table.lookup key <;> simpa only [setCall, setGate, setAt_self] using within _ _
    | leave key gate outer result top =>
      rw [top] at before
      simpa only [finishCall, setAt_self] using before.tail
    | enter key gate outer top | found key gate outer tile top | missed key gate outer top
    | start key gate outer top | loaded key gate outer tile top | failed key gate outer failure top
    | store key gate outer tile top | release key gate outer result top =>
      rw [top] at before
      simpa only [setCall, setGate, setAt_self] using before.rephase _
  · rw [taken.calls_of_ne own]
    exact rising other

/-! ### Waiting for a gate -/

/-- Whoever holds a gate that another thread waits for waits for nothing, or for a higher key. -/
theorem Coherent.holder_of_blocked (coherent : Coherent state)
    (rising : ∀ thread, Rising order (state.calls thread)) (blocked : Blocked state thread key) :
    ∃ holder, Unblocked state holder ∨ ∃ higher, order key higher ∧ Blocked state holder higher := by
  obtain ⟨gate, outer, holder, top, held⟩ := blocked
  have fits := coherent.holders gate holder
  unfold Gate.Fits at fits
  rw [if_pos held] at fits
  obtain ⟨call, present, inside⟩ := List.countP_pos_iff.mp (fits ▸ Nat.one_pos)
  simp only [Call.isInside, Bool.and_eq_true, decide_eq_true_eq] at inside
  have same : call.key = key := by
    apply coherent.apart call.key key gate _ (coherent.lookup_top top)
    rw [← inside.1]
    exact coherent.gated holder call present
  refine ⟨holder, ?_⟩
  obtain ⟨⟨name, place, phase⟩, rest, calls⟩ := List.exists_cons_of_ne_nil (List.ne_nil_of_mem present)
  cases below : (state.gates place).holder with
  | none => exact Or.inl ⟨_, rest, calls, fun _ => below⟩
  | some lower =>
    by_cases waits : phase = .waiting
    · subst waits
      refine Or.inr ⟨name, ?_, place, rest, lower, calls, below⟩
      -- The call that holds the gate is not the one that waits, so it stands further out.
      rw [calls] at present
      rcases List.mem_cons.mp present with rfl | further
      · cases inside.2
      · exact same ▸ Rising.below (calls ▸ rising holder) further
    · exact Or.inl ⟨_, rest, calls, fun equal => absurd equal waits⟩

theorem Coherent.exists_unblocked [IsStrictOrder Int order] (coherent : Coherent state)
    (rising : ∀ thread, Rising order (state.calls thread)) (busy : state.calls thread ≠ []) :
    ∃ thread, Unblocked state thread := by
  let keys : Set Int := {key | key ∈ state.table.map Prod.fst}
  have finite : keys.Finite := List.finite_toSet _
  have listed : ∀ thread key, Blocked state thread key → key ∈ keys := by
    rintro thread key ⟨gate, outer, holder, top, -⟩
    by_contra unknown
    have row := coherent.lookup_top top
    rw [(lookup_eq_none_iff_keys key state.table).mpr unknown] at row
    cases row
  have ascent : keys.WellFoundedOn fun higher lower => order lower higher :=
    Set.Finite.wellFoundedOn finite
  have free : ∀ thread key, Blocked state thread key → ∃ thread, Unblocked state thread := by
    intro thread key blocked
    -- From the keys down: a gate of a key can only be kept shut by calls on higher keys.
    refine ascent.induction (listed thread key blocked)
      (P := fun key => ∀ thread, Blocked state thread key → ∃ thread, Unblocked state thread)
      ?_ thread blocked
    intro key _ ih thread blocked
    obtain ⟨holder, free | ⟨higher, above, blocked'⟩⟩ := coherent.holder_of_blocked rising blocked
    · exact ⟨holder, free⟩
    · exact ih higher (listed holder higher blocked') above holder blocked'
  obtain ⟨⟨key, gate, phase⟩, outer, top⟩ := List.exists_cons_of_ne_nil busy
  cases held : (state.gates gate).holder with
  | none => exact ⟨thread, _, outer, top, fun _ => held⟩
  | some holder =>
    by_cases waits : phase = .waiting
    · exact free thread key ⟨gate, outer, holder, waits ▸ top, held⟩
    · exact ⟨thread, _, outer, top, fun equal => absurd equal waits⟩

/-! ### Steps that can be taken -/

theorem isSome_step? {call : Call τ ε} (top : state.calls thread = call :: outer)
    (comes : call.phase.isNext step = true)
    (unheld : call.phase = .waiting → (state.gates call.gate).holder = none) :
    (state.step? thread step).isSome = true := by
  obtain ⟨key, gate, phase⟩ := call
  cases phase with
  | waiting =>
    cases step <;> cases comes
    simp [step?, top, unheld rfl]
  | looking =>
    cases step <;> cases comes
    simp only [step?, top]
    split <;> rfl
  | missed | storing | opening | leaving =>
    cases step <;> cases comes
    simp [step?, top]
  | loading =>
    cases step with
    | finish result => cases result <;> simp [step?, top]
    | get | put | clear | call => simp [step?, top, isFree]
    | _ => cases comes

end State

end Elevation.Cache.Loading
