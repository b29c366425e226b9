import Elevation.Cache.Loading

/-!
The lock of the cache.

Whatever a thread does to the tiles or to the table of gates, it does under the lock of the cache: it
takes the lock, takes the one step that it needs the lock for, and gives the lock back. To pass a
gate, to run a load and to open a gate again it does not need the lock, so that it waits for the lock
inside a gate and outside of all gates, but never for a gate under the lock.
-/
namespace Elevation.Cache.Locking

open Loading (Thread Phase Step)

variable {τ ε : Type}

def needsLock : Step τ ε → Bool
  | .get _ | .put .. | .clear | .call _ | .look | .store | .leave => true
  | .enter | .start | .finish _ | .release => false

structure State (τ ε : Type) where
  loading : Loading.State τ ε
  /-- Who holds the lock of the cache, and the step that it is held for. -/
  owner : Option (Thread × Step τ ε)

/-- A thread takes the lock for a step, takes that step and gives the lock back, or takes a step
without the lock. -/
inductive Move (τ ε : Type) where
  | lock (step : Step τ ε)
  | unlock
  | act (step : Step τ ε)

namespace State

def start (cache : Cache τ) : State τ ε := ⟨.start cache, none⟩

def holdsLock (state : State τ ε) (thread : Thread) : Bool :=
  state.owner.any fun owner => owner.1 = thread

def move? (state : State τ ε) (thread : Thread) : Move τ ε → Option (State τ ε)
  | .lock step =>
    match state.owner with
    | some _ => none
    | none =>
      if needsLock step && (state.loading.step? thread step).isSome then
        some { state with owner := some (thread, step) }
      else none
  | .unlock =>
    match state.owner with
    | none => none
    | some (holder, step) =>
      if holder = thread then
        (state.loading.step? thread step).map fun loading => ⟨loading, none⟩
      else none
  | .act step =>
    if needsLock step || state.holdsLock thread then none
    else (state.loading.step? thread step).map fun loading => { state with loading := loading }

end State

end Elevation.Cache.Locking
