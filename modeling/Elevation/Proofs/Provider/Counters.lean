import Elevation.Proofs.Provider.Transparency

/-!
Counters are read by nobody. Providers whose caches hold the same tiles in the same order answer alike
from then on, however often the one has missed and the other has not.
-/

namespace Elevation

namespace Cache

variable {τ : Type} {cache other : Cache τ}

/-- Two caches with one bound that hold the same tiles in the same order. -/
structure Alike (cache other : Cache τ) : Prop where
  bound : other.bound = cache.bound
  entries : other.entries = cache.entries

theorem Alike.find? (alike : Alike cache other) (key : Int) : other.find? key = cache.find? key := by
  unfold Cache.find?
  rw [alike.entries]

theorem Alike.hit (alike : Alike cache other) : Alike cache.hit other.hit :=
  ⟨alike.bound, alike.entries⟩

theorem Alike.miss (alike : Alike cache other) : Alike cache.miss other.miss :=
  ⟨alike.bound, alike.entries⟩

theorem Alike.placeLast (alike : Alike cache other) (key : Int) (tile : τ) :
    Alike (cache.placeLast key tile) (other.placeLast key tile) := by
  refine ⟨alike.bound, ?_⟩
  unfold Cache.placeLast
  rw [alike.entries]

theorem Alike.put (alike : Alike cache other) (key : Int) (tile : τ) :
    Alike (cache.put key tile) (other.put key tile) := by
  refine ⟨alike.bound, ?_⟩
  unfold Cache.put trim excess Cache.placeLast
  simp only [alike.entries, alike.bound]

theorem Alike.clear (alike : Alike cache other) : Alike cache.clear other.clear :=
  ⟨alike.bound, rfl⟩

end Cache

namespace Provider

open Cache (Alike)

variable {σ α : Type} [Scalar α] {provider : Provider σ} {cache : Cache Tile} {world : World σ}

/-- An outcome that is like another one but for the counters of the cache. -/
def Follows {β : Type} (outcome next : β × Provider σ × World σ) : Prop :=
  ∃ cache, Alike outcome.2.1.cache cache ∧
    next = (outcome.1, { outcome.2.1 with cache := cache }, outcome.2.2)

theorem Follows.map {β γ : Type} {outcome next : β × Provider σ × World σ}
    (follows : Follows outcome next) (f : β → γ) :
    Follows (f outcome.1, outcome.2) (f next.1, next.2) := by
  obtain ⟨cache, alike, rfl⟩ := follows
  exact ⟨cache, alike, rfl⟩

end Provider

end Elevation
