import Elevation.Cache.Basic

/-!
Loading by several threads at once.

Each key that is being loaded has a gate. A thread that misses registers at the gate of its key,
waits until it may pass, looks again, and loads only if the tile is still missing; then it stores
the tile, opens the gate and signs off. The last thread to sign off removes the gate. A step is one
of these critical sections, or the start or the end of a load, so every interleaving of threads is
a sequence of steps. A thread may also read, store and clear directly, between its calls and while
it loads.
-/
namespace Elevation.Cache.Loading

abbrev Thread := Nat

/-- A gate: who is inside, and how many threads are registered. -/
structure Gate where
  holder : Option Thread
  users : Nat
  deriving DecidableEq, Repr

inductive Phase (τ ε : Type) where
  | waiting
  | looking
  /-- The tile was not there when the thread looked; its load has not started yet. -/
  | missed
  | loading
  | storing (tile : τ)
  | opening (result : Except ε τ)
  | leaving (result : Except ε τ)

/-- A call on a key that is under way; `gate` is the gate it registered at. -/
structure Call (τ ε : Type) where
  key : Int
  gate : Nat
  phase : Phase τ ε

structure State (τ ε : Type) where
  cache : Cache τ
  /-- The gate of each key that has one. -/
  table : List (Int × Nat)
  gates : Nat → Gate
  /-- Gates from this number on were never used. -/
  fresh : Nat
  /-- The calls of each thread that are under way, the innermost one first. -/
  calls : Thread → List (Call τ ε)
  /-- The results of all calls that have ended, the latest one first. -/
  results : List (Thread × Except ε τ)

inductive Step (τ ε : Type) where
  | get (key : Int)
  | put (key : Int) (tile : τ)
  | clear
  | call (key : Int)
  | enter
  | look
  | start
  | finish (result : Except ε τ)
  | store
  | release
  | leave

variable {τ ε : Type}

def State.start (cache : Cache τ) : State τ ε :=
  ⟨cache, [], fun _ => ⟨none, 0⟩, 0, fun _ => [], []⟩

/-- Whether a thread with these calls can turn to the cache: it runs a load, or has no call. -/
def isFree : List (Call τ ε) → Bool
  | [] | ⟨_, _, .loading⟩ :: _ => true
  | _ => false

def setAt {β : Type} (f : Nat → β) (place : Nat) (value : β) : Nat → β :=
  fun n => if n = place then value else f n

namespace State

def setCall (state : State τ ε) (thread : Thread) (call : Call τ ε) (outer : List (Call τ ε)) :
    State τ ε :=
  { state with calls := setAt state.calls thread (call :: outer) }

def setGate (state : State τ ε) (gate : Nat) (value : Gate) : State τ ε :=
  { state with gates := setAt state.gates gate value }

def gateOf (state : State τ ε) (key : Int) : Nat × State τ ε :=
  match state.table.lookup key with
  | some gate => (gate, state)
  | none =>
    (state.fresh, { state with
      table := (key, state.fresh) :: state.table
      gates := setAt state.gates state.fresh ⟨none, 0⟩
      fresh := state.fresh + 1 })

def register (state : State τ ε) (thread : Thread) (key : Int) : State τ ε :=
  let (gate, state) := state.gateOf key
  let entry := state.gates gate
  (state.setGate gate { entry with users := entry.users + 1 }).setCall thread
    ⟨key, gate, .waiting⟩ (state.calls thread)

/-- A call starts: it ends at once when the tile is there, and registers at the gate if not. -/
def begin (state : State τ ε) (thread : Thread) (key : Int) : State τ ε :=
  match state.cache.get key with
  | (some tile, cache) =>
    { state with cache := cache.hit, results := (thread, .ok tile) :: state.results }
  | (none, _) => state.register thread key

/-- A call ends: its thread signs off, and the last one takes the gate away. -/
def finishCall (state : State τ ε) (thread : Thread) (call : Call τ ε) (outer : List (Call τ ε))
    (result : Except ε τ) : State τ ε :=
  let entry := state.gates call.gate
  let state := state.setGate call.gate { entry with users := entry.users - 1 }
  { state with
    table :=
      if entry.users = 1 ∧ state.table.lookup call.key = some call.gate then
        state.table.filter fun row => row.1 ≠ call.key
      else state.table
    calls := setAt state.calls thread outer
    results := (thread, result) :: state.results }

def step? (state : State τ ε) (thread : Thread) : Step τ ε → Option (State τ ε)
  | .get key =>
    if isFree (state.calls thread) then some { state with cache := (state.cache.get key).2 }
    else none
  | .put key tile =>
    if isFree (state.calls thread) then some { state with cache := state.cache.put key tile }
    else none
  | .clear =>
    if isFree (state.calls thread) then some { state with cache := state.cache.clear } else none
  | .call key => if isFree (state.calls thread) then some (state.begin thread key) else none
  | .enter =>
    match state.calls thread with
    | ⟨key, gate, .waiting⟩ :: outer =>
      match (state.gates gate).holder with
      | some _ => none
      | none =>
        some ((state.setGate gate { state.gates gate with holder := some thread }).setCall thread
          ⟨key, gate, .looking⟩ outer)
    | _ => none
  | .look =>
    match state.calls thread with
    | ⟨key, gate, .looking⟩ :: outer =>
      match state.cache.get key with
      | (some tile, cache) =>
        let call := ⟨key, gate, .opening (.ok tile)⟩
        some ({ state with cache := cache.hit }.setCall thread call outer)
      | (none, cache) =>
        some ({ state with cache := cache.miss }.setCall thread ⟨key, gate, .missed⟩ outer)
    | _ => none
  | .start =>
    match state.calls thread with
    | ⟨key, gate, .missed⟩ :: outer => some (state.setCall thread ⟨key, gate, .loading⟩ outer)
    | _ => none
  | .finish result =>
    match state.calls thread with
    | ⟨key, gate, .loading⟩ :: outer =>
      match result with
      | .ok tile => some (state.setCall thread ⟨key, gate, .storing tile⟩ outer)
      | .error failure => some (state.setCall thread ⟨key, gate, .opening (.error failure)⟩ outer)
    | _ => none
  | .store =>
    match state.calls thread with
    | ⟨key, gate, .storing tile⟩ :: outer =>
      some ({ state with cache := state.cache.put key tile }.setCall thread
        ⟨key, gate, .opening (.ok tile)⟩ outer)
    | _ => none
  | .release =>
    match state.calls thread with
    | ⟨key, gate, .opening result⟩ :: outer =>
      some ((state.setGate gate { state.gates gate with holder := none }).setCall thread
        ⟨key, gate, .leaving result⟩ outer)
    | _ => none
  | .leave =>
    match state.calls thread with
    | ⟨key, gate, .leaving result⟩ :: outer =>
      some (state.finishCall thread ⟨key, gate, .leaving result⟩ outer result)
    | _ => none

/-- Takes steps in order, leaving out those that cannot be taken. -/
def run (state : State τ ε) : List (Thread × Step τ ε) → State τ ε
  | [] => state
  | (thread, step) :: rest => ((state.step? thread step).getD state).run rest

/-- What a thread does once it may pass the gate, a load giving `result`. -/
def passage (thread : Thread) (result : Except ε τ) : List (Thread × Step τ ε) :=
  [.enter, .look, .start, .finish result, .store, .release, .leave].map (thread, ·)

/-- A number of threads call on one key at the same time: all of them register before the first one
loads, and that load gives `first`; any further load gives `later`. -/
def together (cache : Cache τ) (key : Int) (threads : Nat) (first later : Except ε τ) : State τ ε :=
  let calls := (List.range threads).map fun thread => (thread, Step.call key)
  let rest := (List.range (threads - 1)).flatMap fun thread => passage (thread + 1) later
  (start cache).run (calls ++ passage 0 first ++ rest)

end State

end Elevation.Cache.Loading
