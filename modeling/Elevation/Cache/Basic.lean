import Elevation.Failure

/-!
A bounded store of decoded tiles that keeps the ones used last.

The tiles stand in the order of their last use, the least recent one first. Whatever is read or
stored moves to the end; when the bound is exceeded, tiles leave from the front. A load is run only
for a tile that is not there, and a load that fails stores nothing.
-/
namespace Elevation

structure Cache (τ : Type) where
  /-- The greatest number of tiles; without a bound none ever leaves. -/
  bound : Option Nat
  entries : List (Int × τ)
  hits : Nat
  misses : Nat
  evictions : Nat

namespace Cache

variable {τ : Type}

def empty (bound : Option Nat) : Cache τ := ⟨bound, [], 0, 0, 0⟩

def create (bound : Option Int) : Except Failure (Cache τ) :=
  match bound with
  | none => .ok (empty none)
  | some bound => if bound < 1 then .error (.cacheBound bound) else .ok (empty (some bound.toNat))

/-- The keys from the least to the most recently used one. -/
def keys (cache : Cache τ) : List Int := cache.entries.map Prod.fst

def size (cache : Cache τ) : Nat := cache.entries.length

def find? (cache : Cache τ) (key : Int) : Option τ := cache.entries.lookup key

def contains (cache : Cache τ) (key : Int) : Bool := (cache.find? key).isSome

def without (key : Int) (entries : List (Int × τ)) : List (Int × τ) :=
  entries.filter fun entry => entry.1 ≠ key

def placeLast (cache : Cache τ) (key : Int) (tile : τ) : Cache τ :=
  { cache with entries := without key cache.entries ++ [(key, tile)] }

/-- The tile of a key, which becomes the most recently used one. -/
def get (cache : Cache τ) (key : Int) : Option τ × Cache τ :=
  match cache.find? key with
  | none => (none, cache)
  | some tile => (some tile, cache.placeLast key tile)

def excess (cache : Cache τ) : Nat :=
  match cache.bound with
  | none => 0
  | some bound => cache.entries.length - bound

/-- Lets the least recently used tiles go until the bound is kept. -/
def trim (cache : Cache τ) : Cache τ :=
  { cache with
    entries := cache.entries.drop cache.excess
    evictions := cache.evictions + cache.excess }

def put (cache : Cache τ) (key : Int) (tile : τ) : Cache τ := (cache.placeLast key tile).trim

def clear (cache : Cache τ) : Cache τ := { cache with entries := [] }

def hit (cache : Cache τ) : Cache τ := { cache with hits := cache.hits + 1 }

def miss (cache : Cache τ) : Cache τ := { cache with misses := cache.misses + 1 }

/-- The work that provides a tile. It may use the cache itself, and the state `σ` besides. -/
abbrev Load (τ ε σ : Type) := Cache τ → σ → Except ε τ × Cache τ × σ

def getOrLoad {ε σ : Type} (cache : Cache τ) (key : Int) (load : Load τ ε σ) (state : σ) :
    Except ε τ × Cache τ × σ :=
  match cache.get key with
  | (some tile, cache) => (.ok tile, cache.hit, state)
  | (none, cache) =>
    match load cache.miss state with
    | (.ok tile, cache, state) => (.ok tile, cache.put key tile, state)
    | (.error failure, cache, state) => (.error failure, cache, state)

end Cache

end Elevation
