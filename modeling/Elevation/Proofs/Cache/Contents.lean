import Elevation.Cache.Basic
import Elevation.Proofs.Lookup

/-!
What a cache holds after each of its operations. Reading never changes what is there, storing adds
one tile and may drop others, and nothing else ever gets in.
-/

namespace Elevation

namespace Cache

variable {τ : Type}

theorem find?_eq_none_iff (cache : Cache τ) (key : Int) :
    cache.find? key = none ↔ key ∉ cache.keys := lookup_eq_none_iff_keys key cache.entries

theorem mem_of_find? {cache : Cache τ} {key : Int} {tile : τ} (found : cache.find? key = some tile) :
    (key, tile) ∈ cache.entries := by
  unfold find? at found
  obtain ⟨before, after, split, -⟩ := List.lookup_eq_some_iff.mp found
  simp [split]

/-! ### Moving and dropping entries -/

theorem mem_entries_placeLast {cache : Cache τ} {key : Int} {tile : τ} {entry : Int × τ} :
    entry ∈ (cache.placeLast key tile).entries ↔
      (entry ∈ cache.entries ∧ entry.1 ≠ key) ∨ entry = (key, tile) := by
  simp [placeLast, without]

theorem mem_entries_put {cache : Cache τ} {key : Int} {tile : τ} {entry : Int × τ}
    (present : entry ∈ (cache.put key tile).entries) :
    entry ∈ cache.entries ∨ entry = (key, tile) := by
  have kept : entry ∈ (cache.placeLast key tile).entries := List.mem_of_mem_drop present
  rcases mem_entries_placeLast.mp kept with ⟨old, -⟩ | new
  · exact Or.inl old
  · exact Or.inr new

theorem mem_entries_get {cache : Cache τ} {key : Int} {entry : Int × τ}
    (present : entry ∈ (cache.get key).2.entries) : entry ∈ cache.entries := by
  unfold get at present
  cases found : cache.find? key with
  | none => simpa [found] using present
  | some tile =>
    simp only [found] at present
    rcases mem_entries_placeLast.mp present with ⟨old, -⟩ | new
    · exact old
    · exact new ▸ mem_of_find? found

theorem get_fst (cache : Cache τ) (key : Int) : (cache.get key).1 = cache.find? key := by
  unfold get
  cases cache.find? key <;> rfl

theorem get_of_absent {cache : Cache τ} {key : Int} (absent : cache.find? key = none) :
    cache.get key = (none, cache) := by
  simp [get, absent]

/-! ### Loading what is not there -/

theorem getOrLoad_of_find? {ε σ : Type} {cache : Cache τ} {key : Int} {tile : τ}
    (found : cache.find? key = some tile) (load : Load τ ε σ) (state : σ) :
    cache.getOrLoad key load state = (.ok tile, (cache.placeLast key tile).hit, state) := by
  simp [getOrLoad, get, found]

theorem getOrLoad_of_absent {ε σ : Type} {cache : Cache τ} {key : Int}
    (absent : cache.find? key = none) (load : Load τ ε σ) (state : σ) :
    cache.getOrLoad key load state =
      match load cache.miss state with
      | (.ok tile, cache, state) => (.ok tile, cache.put key tile, state)
      | (.error failure, cache, state) => (.error failure, cache, state) := by
  unfold getOrLoad
  rewrite [get_of_absent absent]
  rfl

/-! ### Keys that are not there -/

theorem find?_get_eq_none {cache : Cache τ} {key : Int} (other : Int)
    (absent : cache.find? key = none) : (cache.get other).2.find? key = none := by
  rw [find?_eq_none_iff] at absent ⊢
  intro present
  obtain ⟨entry, kept, rfl⟩ := List.mem_map.mp present
  exact absent (List.mem_map_of_mem (mem_entries_get kept))

theorem find?_put_eq_none {cache : Cache τ} {key other : Int} (tile : τ) (different : key ≠ other)
    (absent : cache.find? key = none) : (cache.put other tile).find? key = none := by
  rw [find?_eq_none_iff] at absent ⊢
  intro present
  obtain ⟨entry, kept, rfl⟩ := List.mem_map.mp present
  rcases mem_entries_put kept with old | new
  · exact absent (List.mem_map_of_mem old)
  · exact different (congrArg Prod.fst new)

end Cache

end Elevation
