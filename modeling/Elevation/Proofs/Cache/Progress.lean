import Elevation.Cache.Locking
import Elevation.Proofs.Cache.Waiting

/-!
Loading never comes to a deadlock. A thread that waits for no gate can go on as soon as it gets the lock
of the cache, and whoever owns that lock needs nothing else for the step that it took the lock for.
-/

namespace Elevation.Cache.Locking

open Loading (Thread Phase Step Call Rising)
open Loading.State (Coherent Ascends Unblocked Taken taken_of_step isSome_step?)

variable {τ ε : Type}

namespace State

/-- The moves with which a thread goes on that owns the lock or has a call under way. -/
def isNext (state : State τ ε) (thread : Thread) : Move τ ε → Bool
  | .unlock => state.holdsLock thread
  | .lock step =>
    !state.holdsLock thread && needsLock step &&
      (state.loading.calls thread).head?.any fun call => call.phase.isNext step
  | .act step =>
    !state.holdsLock thread && !needsLock step &&
      (state.loading.calls thread).head?.any fun call => call.phase.isNext step

/-- Whether a move leads to no call from inside a load but on a key above the key of that load. -/
def Climbs (order : Int → Int → Prop) (state : State τ ε) (thread : Thread) : Move τ ε → Prop
  | .lock step | .act step => Ascends order state.loading thread step
  | .unlock => True

instance {order : Int → Int → Prop} [DecidableRel order] (state : State τ ε) (thread : Thread)
    (move : Move τ ε) : Decidable (state.Climbs order thread move) :=
  match move with
  | .lock step | .act step => inferInstanceAs (Decidable (state.loading.Ascends order thread step))
  | .unlock => isTrue trivial

/-- The moves of any threads, one after the other, where loads ask only for keys above their own. -/
inductive Ran (order : Int → Int → Prop) (first : State τ ε) :
    List (Thread × Move τ ε) → State τ ε → Prop where
  | nil : Ran order first [] first
  | snoc {moves : List (Thread × Move τ ε)} {state next : State τ ε} {thread : Thread}
      {move : Move τ ε} (ran : Ran order first moves state) (climbs : state.Climbs order thread move)
      (moved : state.move? thread move = some next) :
      Ran order first (moves ++ [(thread, move)]) next

/-- Calls inside calls are on ever higher keys, and what the owner of the lock is about to do can be
done. -/
structure Sound (order : Int → Int → Prop) (state : State τ ε) : Prop where
  rising : ∀ thread, Rising order (state.loading.calls thread)
  owned : ∀ thread step, state.owner = some (thread, step) → needsLock step = true ∧
    (state.loading.step? thread step).isSome = true ∧ Ascends order state.loading thread step

variable {order : Int → Int → Prop} {first state next : State τ ε} {thread : Thread}
  {move : Move τ ε} {moves : List (Thread × Move τ ε)}

theorem holdsLock_of_owner {step : Step τ ε} (owner : state.owner = some (thread, step)) :
    state.holdsLock thread = true := by
  simp [holdsLock, owner]

inductive Moved (state : State τ ε) (thread : Thread) : Move τ ε → State τ ε → Prop where
  | locked (step : Step τ ε) (free : state.owner = none) (needed : needsLock step = true)
      (able : (state.loading.step? thread step).isSome = true) :
      Moved state thread (.lock step) { state with owner := some (thread, step) }
  | unlocked (step : Step τ ε) (loading : Loading.State τ ε)
      (owner : state.owner = some (thread, step))
      (stepped : state.loading.step? thread step = some loading) :
      Moved state thread .unlock ⟨loading, none⟩
  | acted (step : Step τ ε) (loading : Loading.State τ ε) (needless : needsLock step = false)
      (unowned : state.holdsLock thread = false)
      (stepped : state.loading.step? thread step = some loading) :
      Moved state thread (.act step) { state with loading := loading }

theorem moved_of_move (made : state.move? thread move = some next) : Moved state thread move next := by
  cases move with
  | lock step =>
    simp only [move?] at made
    split at made
    next => cases made
    next free =>
      split_ifs at made with able
      rw [Bool.and_eq_true] at able
      exact Option.some.inj made ▸ .locked step free able.1 able.2
  | unlock =>
    simp only [move?] at made
    split at made
    next => cases made
    next holder step owner =>
      split_ifs at made with own
      obtain ⟨loading, stepped, rfl⟩ := Option.map_eq_some_iff.mp made
      exact .unlocked step loading (own ▸ owner) stepped
  | act step =>
    simp only [move?] at made
    split_ifs at made with barred
    obtain ⟨loading, stepped, rfl⟩ := Option.map_eq_some_iff.mp made
    simp only [Bool.or_eq_true, not_or, Bool.not_eq_true] at barred
    exact .acted step loading barred.1 barred.2 stepped

theorem isSome_step?_of_calls {before after : Loading.State τ ε} {step : Step τ ε}
    (locked : needsLock step = true) (same : after.calls thread = before.calls thread)
    (able : (before.step? thread step).isSome = true) :
    (after.step? thread step).isSome = true := by
  obtain ⟨next, stepped⟩ := Option.isSome_iff_exists.mp able
  cases taken_of_step stepped with
  | get _ free | put _ _ free | clear free | hit _ _ free | register _ free =>
    simp [Loading.State.step?, same, free]
  | found _ _ _ _ top | missed _ _ _ top | store _ _ _ _ top | leave _ _ _ _ top =>
    exact isSome_step? (same.trans top) rfl (fun waits => by cases waits)
  | enter | start | loaded | failed | release => cases locked

theorem ascends_of_calls {before after : Loading.State τ ε} {step : Step τ ε}
    (same : after.calls thread = before.calls thread) (ascends : Ascends order before thread step) :
    Ascends order after thread step := by
  cases step with
  | call key =>
    unfold Ascends at ascends ⊢
    rwa [same]
  | _ => trivial

theorem sound_start (cache : Cache τ) : Sound order (start cache : State τ ε) where
  rising := fun _ => List.Pairwise.nil
  owned := by
    rintro thread step ⟨⟩

theorem Sound.moved [IsTrans Int order] (sound : Sound order state)
    (climbs : state.Climbs order thread move) (moved : Moved state thread move next) :
    Sound order next := by
  cases moved with
  | locked step free needed able =>
    refine ⟨sound.rising, ?_⟩
    rintro owner step' ⟨⟩
    exact ⟨needed, able, climbs⟩
  | unlocked step loading owner stepped =>
    refine ⟨(taken_of_step stepped).rising (sound.owned thread step owner).2.2 sound.rising, ?_⟩
    rintro other step' ⟨⟩
  | acted step loading needless unowned stepped =>
    have taken := taken_of_step stepped
    refine ⟨taken.rising climbs sound.rising, ?_⟩
    intro owner pending owned
    obtain ⟨needed, able, ascends⟩ := sound.owned owner pending owned
    have away : owner ≠ thread := by
      rintro rfl
      cases unowned.symm.trans (holdsLock_of_owner owned)
    have same := taken.calls_of_ne away
    exact ⟨needed, isSome_step?_of_calls needed same able, ascends_of_calls same ascends⟩

theorem Ran.sound [IsTrans Int order] (ran : Ran order first moves state)
    (initial : Sound order first) : Sound order state := by
  induction ran with
  | nil => exact initial
  | snoc ran climbs moved ih => exact ih.moved climbs (moved_of_move moved)

/-- Apart from the lock, threads do what they do when every step is taken at once. -/
theorem Ran.steps (ran : Ran order first moves state) :
    ∃ steps, Loading.State.Ran first.loading steps state.loading := by
  induction ran with
  | nil => exact ⟨[], .nil⟩
  | snoc ran climbs moved ih =>
    obtain ⟨steps, before⟩ := ih
    cases moved_of_move moved with
    | locked => exact ⟨steps, before⟩
    | unlocked step loading owner stepped | acted step loading needless unowned stepped =>
      exact ⟨_, before.snoc stepped⟩

theorem Sound.unlocks (sound : Sound order state) {step : Step τ ε}
    (owner : state.owner = some (thread, step)) : (state.move? thread .unlock).isSome = true := by
  simp [move?, owner, (sound.owned thread step owner).2.1]

theorem isSome_move?_of_unblocked (free : state.owner = none) (unblocked : Unblocked state.loading thread)
    (comes : state.isNext thread move = true) : (state.move? thread move).isSome = true := by
  obtain ⟨call, outer, top, unheld⟩ := unblocked
  have unowned : state.holdsLock thread = false := by simp [holdsLock, free]
  cases move with
  | unlock =>
    rw [isNext, unowned] at comes
    cases comes
  | lock step =>
    simp only [isNext, top, List.head?_cons, Option.any_some, Bool.and_eq_true] at comes
    simp [move?, free, comes.1.2, isSome_step? top comes.2 unheld]
  | act step =>
    simp only [isNext, top, List.head?_cons, Option.any_some, Bool.and_eq_true,
      Bool.not_eq_true'] at comes
    simp [move?, unowned, comes.1.2, isSome_step? top comes.2 unheld]

theorem exists_isNext (free : state.owner = none) (busy : state.loading.calls thread ≠ []) :
    ∃ move, state.isNext thread move = true := by
  obtain ⟨call, outer, top⟩ := List.exists_cons_of_ne_nil busy
  obtain ⟨step, comes⟩ := call.phase.exists_isNext
  have unowned : state.holdsLock thread = false := by simp [holdsLock, free]
  cases locked : needsLock step with
  | true => exact ⟨.lock step, by simp [isNext, unowned, locked, top, comes]⟩
  | false => exact ⟨.act step, by simp [isNext, unowned, locked, top, comes]⟩

def climb? (order : Int → Int → Prop) [DecidableRel order] (first : State τ ε)
    (moves : List (Thread × Move τ ε)) : Option (State τ ε) :=
  moves.foldlM
    (fun state row => if state.Climbs order row.1 row.2 then state.move? row.1 row.2 else none) first

theorem ran_of_climb [DecidableRel order] (made : first.climb? order moves = some state) :
    Ran order first moves state := by
  induction moves using List.reverseRecOn generalizing state with
  | nil => exact Option.some.inj made ▸ .nil
  | append_singleton moves row ih =>
    rw [climb?, List.foldlM_append] at made
    obtain ⟨middle, before, last⟩ := Option.bind_eq_some_iff.mp made
    simp only [List.foldlM_cons, List.foldlM_nil] at last
    obtain ⟨next, moved, same⟩ := Option.bind_eq_some_iff.mp last
    split_ifs at moved with climbs
    exact Option.some.inj same ▸ (ih before).snoc climbs moved

/-! ### Progress -/

/-- As long as anything is unfinished there is a thread that can go on, whatever it wants to do next:
loading never comes to a deadlock, if loads ask only for keys above their own. -/
theorem Ran.proceeds [IsStrictOrder Int order] {cache : Cache τ}
    (ran : Ran order (start cache) moves state)
    (unfinished : state.owner ≠ none ∨ ∃ thread, state.loading.calls thread ≠ []) :
    ∃ thread, (∃ move, state.isNext thread move = true) ∧
      ∀ move, state.isNext thread move = true → (state.move? thread move).isSome = true := by
  have sound := ran.sound (sound_start cache)
  obtain ⟨steps, stepwise⟩ := ran.steps
  have coherent := stepwise.coherent (Loading.State.coherent_start cache)
  cases owner : state.owner with
  | some held =>
    obtain ⟨thread, step⟩ := held
    have owns := holdsLock_of_owner owner
    refine ⟨thread, ⟨.unlock, owns⟩, ?_⟩
    intro move comes
    cases move with
    | unlock => exact sound.unlocks owner
    | lock step => simp [isNext, owns] at comes
    | act step => simp [isNext, owns] at comes
  | none =>
    obtain ⟨busy, calls⟩ := unfinished.resolve_left (not_not.mpr owner)
    obtain ⟨thread, unblocked⟩ := coherent.exists_unblocked sound.rising calls
    refine ⟨thread, exists_isNext owner unblocked.busy, ?_⟩
    exact fun move => isSome_move?_of_unblocked owner unblocked

/-- A thread loads the tile of a key up to where its load runs. -/
def upToLoad (thread : Thread) (key : Int) : List (Thread × Move Nat Nat) :=
  [.lock (.call key), .unlock, .act .enter, .lock .look, .unlock, .act .start].map (thread, ·)

/-- Two threads load a key each, and then the first one asks for the key of the second one too. -/
def crossing : List (Thread × Move Nat Nat) :=
  upToLoad 0 1 ++ upToLoad 1 2 ++ [(0, .lock (.call 2)), (0, .unlock)]

def crossed : State Nat Nat :=
  ((start (.empty none)).climb? (· < ·) crossing).getD (start (.empty none))

theorem proceeds_crossing : Ran (· < ·) (start (.empty none)) crossing crossed ∧
    (∃ thread, crossed.loading.calls thread ≠ []) ∧
    (crossed.move? 0 (.act .enter)).isSome = false ∧
    (crossed.move? 1 (.act (.finish (.ok 7)))).isSome = true := by
  have ran : Ran (· < ·) (start (.empty none)) crossing crossed := ran_of_climb rfl
  have busy : ∃ thread, crossed.loading.calls thread ≠ [] := ⟨0, by decide⟩
  have stuck : (crossed.move? 0 (.act .enter)).isSome = false := by decide
  obtain ⟨thread, ⟨move, comes⟩, able⟩ := ran.proceeds (Or.inr busy)
  refine ⟨ran, busy, stuck, ?_⟩
  match thread with
  | 0 =>
    rw [able (.act .enter) rfl] at stuck
    cases stuck
  | 1 => exact able (.act (.finish (.ok 7))) rfl
  | thread + 2 =>
    have idle : crossed.loading.calls (thread + 2) = [] := rfl
    have unowned : crossed.holdsLock (thread + 2) = false := rfl
    cases move <;> simp [isNext, idle, unowned] at comes

end State

end Elevation.Cache.Locking
