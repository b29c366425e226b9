import Elevation.Cache.Loading
import Elevation.Proofs.Cache.Contents

/-!
What a step of a thread does, and the runs that steps make up. `taken_of_step` says for each kind of
step when it can be taken and what the state is afterwards; nothing else looks into `step?`.
-/

namespace Elevation.Cache.Loading.State

variable {τ ε : Type}

inductive Taken (state : State τ ε) (thread : Thread) : Step τ ε → State τ ε → Prop where
  | get (key : Int) (free : isFree (state.calls thread) = true) :
      Taken state thread (.get key) { state with cache := (state.cache.get key).2 }
  | put (key : Int) (tile : τ) (free : isFree (state.calls thread) = true) :
      Taken state thread (.put key tile) { state with cache := state.cache.put key tile }
  | clear (free : isFree (state.calls thread) = true) :
      Taken state thread .clear { state with cache := state.cache.clear }
  | hit (key : Int) (tile : τ) (free : isFree (state.calls thread) = true)
      (present : state.cache.find? key = some tile) :
      Taken state thread (.call key) { state with
        cache := (state.cache.get key).2.hit, results := (thread, .ok tile) :: state.results }
  | register (key : Int) (free : isFree (state.calls thread) = true)
      (absent : state.cache.find? key = none) :
      Taken state thread (.call key) (state.register thread key)
  | enter (key : Int) (gate : Nat) (outer : List (Call τ ε))
      (top : state.calls thread = ⟨key, gate, .waiting⟩ :: outer)
      (unheld : (state.gates gate).holder = none) :
      Taken state thread .enter ((state.setGate gate
        { state.gates gate with holder := some thread }).setCall thread ⟨key, gate, .looking⟩ outer)
  | found (key : Int) (gate : Nat) (outer : List (Call τ ε)) (tile : τ)
      (top : state.calls thread = ⟨key, gate, .looking⟩ :: outer)
      (present : state.cache.find? key = some tile) :
      Taken state thread .look ({ state with cache := (state.cache.get key).2.hit }.setCall thread
        ⟨key, gate, .opening (.ok tile)⟩ outer)
  | missed (key : Int) (gate : Nat) (outer : List (Call τ ε))
      (top : state.calls thread = ⟨key, gate, .looking⟩ :: outer)
      (absent : state.cache.find? key = none) :
      Taken state thread .look ({ state with cache := state.cache.miss }.setCall thread
        ⟨key, gate, .missed⟩ outer)
  | start (key : Int) (gate : Nat) (outer : List (Call τ ε))
      (top : state.calls thread = ⟨key, gate, .missed⟩ :: outer) :
      Taken state thread .start (state.setCall thread ⟨key, gate, .loading⟩ outer)
  | loaded (key : Int) (gate : Nat) (outer : List (Call τ ε)) (tile : τ)
      (top : state.calls thread = ⟨key, gate, .loading⟩ :: outer) :
      Taken state thread (.finish (.ok tile)) (state.setCall thread ⟨key, gate, .storing tile⟩ outer)
  | failed (key : Int) (gate : Nat) (outer : List (Call τ ε)) (failure : ε)
      (top : state.calls thread = ⟨key, gate, .loading⟩ :: outer) :
      Taken state thread (.finish (.error failure))
        (state.setCall thread ⟨key, gate, .opening (.error failure)⟩ outer)
  | store (key : Int) (gate : Nat) (outer : List (Call τ ε)) (tile : τ)
      (top : state.calls thread = ⟨key, gate, .storing tile⟩ :: outer) :
      Taken state thread .store ({ state with cache := state.cache.put key tile }.setCall thread
        ⟨key, gate, .opening (.ok tile)⟩ outer)
  | release (key : Int) (gate : Nat) (outer : List (Call τ ε)) (result : Except ε τ)
      (top : state.calls thread = ⟨key, gate, .opening result⟩ :: outer) :
      Taken state thread .release ((state.setGate gate
        { state.gates gate with holder := none }).setCall thread ⟨key, gate, .leaving result⟩ outer)
  | leave (key : Int) (gate : Nat) (outer : List (Call τ ε)) (result : Except ε τ)
      (top : state.calls thread = ⟨key, gate, .leaving result⟩ :: outer) :
      Taken state thread .leave
        (state.finishCall thread ⟨key, gate, .leaving result⟩ outer result)

theorem taken_of_call {state next : State τ ε} {thread : Thread} {key : Int}
    (stepped : state.step? thread (.call key) = some next) : Taken state thread (.call key) next := by
  simp only [step?, Option.ite_none_right_eq_some, Option.some.injEq] at stepped
  obtain ⟨free, rfl⟩ := stepped
  unfold begin
  cases present : state.cache.find? key with
  | none =>
    rw [get_of_absent present]
    exact .register key free present
  | some tile =>
    have lookup : state.cache.get key = (some tile, (state.cache.get key).2) :=
      Prod.ext ((get_fst state.cache key).trans present) rfl
    rw [lookup]
    exact .hit key tile free present

theorem taken_of_look {state next : State τ ε} {thread : Thread}
    (stepped : state.step? thread .look = some next) : Taken state thread .look next := by
  simp only [step?] at stepped
  split at stepped
  next key gate outer top =>
    cases present : state.cache.find? key with
    | none =>
      simp only [get_of_absent present, Option.some.injEq] at stepped
      exact stepped ▸ .missed key gate outer top present
    | some tile =>
      have lookup : state.cache.get key = (some tile, (state.cache.get key).2) :=
        Prod.ext ((get_fst state.cache key).trans present) rfl
      rw [lookup] at stepped
      simp only [Option.some.injEq] at stepped
      exact stepped ▸ .found key gate outer tile top present
  next => cases stepped

theorem taken_of_finish {state next : State τ ε} {thread : Thread} {result : Except ε τ}
    (stepped : state.step? thread (.finish result) = some next) :
    Taken state thread (.finish result) next := by
  simp only [step?] at stepped
  split at stepped
  next key gate outer top =>
    cases result with
    | ok tile =>
      simp only [Option.some.injEq] at stepped
      exact stepped ▸ .loaded key gate outer tile top
    | error failure =>
      simp only [Option.some.injEq] at stepped
      exact stepped ▸ .failed key gate outer failure top
  next => cases stepped

theorem taken_of_enter {state next : State τ ε} {thread : Thread}
    (stepped : state.step? thread .enter = some next) : Taken state thread .enter next := by
  simp only [step?] at stepped
  split at stepped
  next key gate outer top =>
    split at stepped
    next => cases stepped
    next unheld =>
      simp only [Option.some.injEq] at stepped
      exact stepped ▸ .enter key gate outer top unheld
  next => cases stepped

theorem taken_of_step {state next : State τ ε} {thread : Thread} {step : Step τ ε}
    (stepped : state.step? thread step = some next) : Taken state thread step next := by
  cases step with
  | call key => exact taken_of_call stepped
  | enter => exact taken_of_enter stepped
  | look => exact taken_of_look stepped
  | finish result => exact taken_of_finish stepped
  | get key =>
    simp only [step?, Option.ite_none_right_eq_some, Option.some.injEq] at stepped
    obtain ⟨free, rfl⟩ := stepped
    exact .get key free
  | put key tile =>
    simp only [step?, Option.ite_none_right_eq_some, Option.some.injEq] at stepped
    obtain ⟨free, rfl⟩ := stepped
    exact .put key tile free
  | clear =>
    simp only [step?, Option.ite_none_right_eq_some, Option.some.injEq] at stepped
    obtain ⟨free, rfl⟩ := stepped
    exact .clear free
  | start =>
    simp only [step?] at stepped
    split at stepped
    next key gate outer top => exact Option.some.inj stepped ▸ .start key gate outer top
    next => cases stepped
  | store =>
    simp only [step?] at stepped
    split at stepped
    next key gate tile outer top => exact Option.some.inj stepped ▸ .store key gate outer tile top
    next => cases stepped
  | release =>
    simp only [step?] at stepped
    split at stepped
    next key gate result outer top =>
      exact Option.some.inj stepped ▸ .release key gate outer result top
    next => cases stepped
  | leave =>
    simp only [step?] at stepped
    split at stepped
    next key gate result outer top => exact Option.some.inj stepped ▸ .leave key gate outer result top
    next => cases stepped

/-- The states that steps of any threads lead to, one step after the other. -/
inductive Ran (first : State τ ε) : List (Thread × Step τ ε) → State τ ε → Prop where
  | nil : Ran first [] first
  | snoc {steps : List (Thread × Step τ ε)} {state next : State τ ε} {thread : Thread}
      {step : Step τ ε} (ran : Ran first steps state)
      (stepped : state.step? thread step = some next) : Ran first (steps ++ [(thread, step)]) next

theorem ran_of_foldlM {first last : State τ ε} {steps : List (Thread × Step τ ε)}
    (taken : steps.foldlM (fun state row => state.step? row.1 row.2) first = some last) :
    Ran first steps last := by
  induction steps using List.reverseRecOn generalizing last with
  | nil => exact Option.some.inj taken ▸ .nil
  | append_singleton steps row ih =>
    rw [List.foldlM_append] at taken
    obtain ⟨state, before, stepped⟩ := Option.bind_eq_some_iff.mp taken
    simp only [List.foldlM_cons, List.foldlM_nil] at stepped
    obtain ⟨next, stepped, same⟩ := Option.bind_eq_some_iff.mp stepped
    exact Option.some.inj same ▸ (ih before).snoc stepped

end Elevation.Cache.Loading.State
