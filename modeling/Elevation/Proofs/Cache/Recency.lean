import Elevation.Proofs.Cache.Contents

/-!
Which keys a cache holds. Of the keys used since the last clear it holds those used last, as many as
its bound allows, in the order of their last use. So a cache with a tighter bound holds an end of what
a cache with a wider bound holds, and never misses less often.
-/

namespace Elevation.Cache

variable {τ σ : Type}

/-! ### Orders of keys -/

/-- The keys after the use of one of them, which comes last. -/
def toEnd (key : Int) (keys : List Int) : List Int := keys.filter (· ≠ key) ++ [key]

def room (bound : Option Nat) (keys : Nat) : Nat :=
  match bound with
  | none => keys
  | some most => min most keys

/-- The last keys, as many as a bound allows. -/
def latest (bound : Option Nat) (keys : List Int) : List Int := keys.rtake (room bound keys.length)

def Tighter (bound wider : Option Nat) : Prop :=
  ∀ most, wider = some most → ∃ fewer, bound = some fewer ∧ fewer ≤ most

variable {bound wider : Option Nat} {key : Int} {keys front back : List Int}

theorem room_le (bound : Option Nat) (keys : Nat) : room bound keys ≤ keys := by
  cases bound with
  | none => exact le_rfl
  | some most => exact min_le_right most keys

theorem length_latest (bound : Option Nat) (keys : List Int) :
    (latest bound keys).length = room bound keys.length := by
  have le := room_le bound keys.length
  rw [latest, List.rtake, List.length_drop]
  omega

theorem latest_suffix (bound : Option Nat) (keys : List Int) : latest bound keys <:+ keys :=
  List.drop_suffix _ keys

theorem latest_nil (bound : Option Nat) : latest bound [] = [] := List.drop_nil

theorem latest_of_fits (fits : room bound keys.length = keys.length) : latest bound keys = keys := by
  rw [latest, fits, List.rtake, Nat.sub_self, List.drop_zero]

theorem latest_append (enough : room bound (front.length + back.length) ≤ back.length) :
    latest bound (front ++ back) = latest bound back := by
  have same : room bound (front.length + back.length) = room bound back.length := by
    cases bound <;> simp only [room] at enough ⊢ <;> omega
  have le := room_le bound back.length
  simp only [latest, List.rtake, List.length_append, same, List.drop_append]
  rw [List.drop_eq_nil_of_le (by omega), List.nil_append]
  congr 1
  omega

theorem latest_suffix_latest (tighter : Tighter bound wider) (keys : List Int) :
    latest bound keys <:+ latest wider keys := by
  have more : room bound keys.length ≤ room wider keys.length := by
    cases wider with
    | none => exact room_le bound keys.length
    | some most =>
      obtain ⟨fewer, rfl, le⟩ := tighter most rfl
      simp only [room]
      omega
  exact List.drop_suffix_drop_left keys (by omega)

theorem length_toEnd (key : Int) (distinct : keys.Nodup) :
    (toEnd key keys).length = if key ∈ keys then keys.length else keys.length + 1 := by
  have erased : keys.filter (· ≠ key) = keys.erase key := by
    rw [distinct.erase_eq_filter]
    exact List.filter_congr fun other _ => by by_cases same : other = key <;> simp [same]
  rw [toEnd, erased, List.length_append, List.length_singleton, List.length_erase]
  split_ifs with present
  · have some := List.length_pos_of_mem present
    omega
  · rfl

theorem toEnd_append (key : Int) (front back : List Int) :
    toEnd key (front ++ back) = front.filter (· ≠ key) ++ toEnd key back := by
  rw [toEnd, toEnd, List.filter_append, List.append_assoc]

/-- Keys that have left do not come back when another key is used. -/
theorem latest_toEnd_latest (bound : Option Nat) (key : Int) (distinct : keys.Nodup) :
    latest bound (toEnd key (latest bound keys)) = latest bound (toEnd key keys) := by
  obtain ⟨front, split⟩ := latest_suffix bound keys
  have kept := length_latest bound keys
  generalize latest bound keys = back at split kept ⊢
  subst split
  have longer := length_toEnd key distinct.of_append_right
  rw [toEnd_append, latest_append]
  have fewer := List.length_filter_le (fun other => decide (other ≠ key)) front
  rw [List.length_append] at kept
  cases bound with
  | none =>
    simp only [room] at kept ⊢
    omega
  | some most =>
    simp only [room] at kept ⊢
    split_ifs at longer <;> omega

theorem dedup_concat (keys : List Int) (key : Int) :
    (keys ++ [key]).dedup = toEnd key keys.dedup := by
  induction keys with
  | nil => rfl
  | cons first rest ih =>
    rw [List.cons_append]
    by_cases again : first ∈ rest
    · rw [List.dedup_cons_of_mem again, List.dedup_cons_of_mem (by simp [again]), ih]
    · rw [List.dedup_cons_of_notMem again]
      by_cases same : first = key
      · rw [List.dedup_cons_of_mem (by simp [same]), ih, toEnd, toEnd, List.filter_cons_of_neg (by simp [same])]
      · rw [List.dedup_cons_of_notMem (by simp [again, same]), ih, toEnd, toEnd,
          List.filter_cons_of_pos (by simp [same]), List.cons_append]

/-! ### Keys of a cache -/

theorem mem_keys_of_find? {cache : Cache τ} {tile : τ} (found : cache.find? key = some tile) :
    key ∈ cache.keys := List.mem_map_of_mem (mem_of_find? found)

theorem keys_placeLast (cache : Cache τ) (key : Int) (tile : τ) :
    (cache.placeLast key tile).keys = toEnd key cache.keys := by
  simp only [keys, placeLast, without, toEnd, List.map_append, List.map_cons, List.map_nil]
  rw [List.filter_map]
  rfl

theorem keys_trim (cache : Cache τ) : cache.trim.keys = latest cache.bound cache.keys := by
  simp only [keys, trim, excess, latest, List.rtake, List.map_drop, List.length_map]
  cases cache.bound with
  | none => simp [room]
  | some most =>
    simp only [room]
    congr 1
    omega

theorem keys_put (cache : Cache τ) (key : Int) (tile : τ) :
    (cache.put key tile).keys = latest cache.bound (toEnd key cache.keys) := by
  rw [put, keys_trim, keys_placeLast]
  rfl

/-! ### Uses of a cache -/

/-- What is done with a cache. The load that a tile is asked for with may depend on a state and change
it; it always provides a tile. -/
inductive Use (τ σ : Type) where
  | put (key : Int) (tile : τ)
  | load (key : Int) (provide : σ → τ × σ)
  | clear

def succeeding (provide : σ → τ × σ) : Load τ Failure σ := fun cache state =>
  (.ok (provide state).1, cache, (provide state).2)

def apply (cache : Cache τ) (state : σ) : Use τ σ → Cache τ × σ
  | .put key tile => (cache.put key tile, state)
  | .load key provide => (cache.getOrLoad key (succeeding provide) state).2
  | .clear => (cache.clear, state)

def run (cache : Cache τ) (state : σ) (uses : List (Use τ σ)) : Cache τ × σ :=
  uses.foldl (fun (cache, state) use => cache.apply state use) (cache, state)

/-- The keys used so far after one more use; a clear starts anew. -/
def Use.record (keys : List Int) : Use τ σ → List Int
  | .put key _ => keys ++ [key]
  | .load key _ => keys ++ [key]
  | .clear => []

/-- The keys used since the last clear, each once, in the order of their last use. -/
def recent (uses : List (Use τ σ)) : List Int := (uses.foldl Use.record []).dedup

/-- How often a use misses the tile that it asks for, if these keys are there. -/
def Use.misses (keys : List Int) : Use τ σ → Nat
  | .load key _ => if key ∈ keys then 0 else 1
  | _ => 0

theorem run_concat (cache : Cache τ) (state : σ) (uses : List (Use τ σ)) (use : Use τ σ) :
    cache.run state (uses ++ [use]) = (cache.run state uses).1.apply (cache.run state uses).2 use := by
  simp [run]

theorem recent_concat (uses : List (Use τ σ)) (use : Use τ σ) :
    recent (uses ++ [use]) =
      match use with
      | .put key _ | .load key _ => toEnd key (recent uses)
      | .clear => [] := by
  simp only [recent, List.foldl_append, List.foldl_cons, List.foldl_nil]
  cases use with
  | put key tile => exact dedup_concat _ key
  | load key provide => exact dedup_concat _ key
  | clear => rfl

theorem recent_nodup (uses : List (Use τ σ)) : (recent uses).Nodup := List.nodup_dedup _

variable {cache : Cache τ} {state : σ}

theorem getOrLoad_succeeding_of_absent (absent : cache.find? key = none) (provide : σ → τ × σ) :
    (cache.getOrLoad key (succeeding provide) state).2 =
      (cache.miss.put key (provide state).1, (provide state).2) := by
  rw [getOrLoad_of_absent absent]
  rfl

theorem bound_apply (cache : Cache τ) (state : σ) (use : Use τ σ) :
    (cache.apply state use).1.bound = cache.bound := by
  cases use with
  | put key tile => rfl
  | clear => rfl
  | load key provide =>
    cases found : cache.find? key with
    | none => rw [apply, getOrLoad_succeeding_of_absent found]; rfl
    | some tile => rw [apply, getOrLoad_of_find? found]; rfl

theorem misses_apply (cache : Cache τ) (state : σ) (use : Use τ σ) :
    (cache.apply state use).1.misses = cache.misses + use.misses cache.keys := by
  cases use with
  | put key tile => rfl
  | clear => rfl
  | load key provide =>
    simp only [Use.misses]
    cases found : cache.find? key with
    | none =>
      rw [apply, getOrLoad_succeeding_of_absent found, if_neg ((find?_eq_none_iff cache key).mp found)]
      rfl
    | some tile =>
      rw [apply, getOrLoad_of_find? found, if_pos (mem_keys_of_find? found)]
      rfl

theorem latest_toEnd_of_mem (distinct : keys.Nodup) (fits : room bound keys.length = keys.length)
    (present : key ∈ keys) : latest bound (toEnd key keys) = toEnd key keys := by
  have same := length_toEnd key distinct
  rw [if_pos present] at same
  exact latest_of_fits (by rw [same, fits])

/-- Whether a key is stored or asked for, and whether it is there or not, it comes last, and as many
keys stay as the bound allows. -/
theorem keys_load (distinct : cache.keys.Nodup)
    (fits : room cache.bound cache.keys.length = cache.keys.length) (provide : σ → τ × σ) :
    (cache.getOrLoad key (succeeding provide) state).2.1.keys =
      latest cache.bound (toEnd key cache.keys) := by
  cases found : cache.find? key with
  | none =>
    rw [getOrLoad_succeeding_of_absent found]
    exact keys_put cache.miss key _
  | some tile =>
    rw [getOrLoad_of_find? found, latest_toEnd_of_mem distinct fits (mem_keys_of_find? found)]
    exact keys_placeLast cache key tile

theorem room_room (bound : Option Nat) (keys : Nat) : room bound (room bound keys) = room bound keys := by
  cases bound with
  | none => rfl
  | some most => simp [room]

theorem keys_apply {uses : List (Use τ σ)} (holds : cache.keys = latest cache.bound (recent uses))
    (state : σ) (use : Use τ σ) :
    (cache.apply state use).1.keys = latest cache.bound (recent (uses ++ [use])) := by
  have distinct := recent_nodup uses
  rw [recent_concat]
  cases use with
  | clear => exact (latest_nil cache.bound).symm
  | put key tile =>
    rw [← latest_toEnd_latest cache.bound key distinct, ← holds]
    exact keys_put cache key tile
  | load key provide =>
    rw [← latest_toEnd_latest cache.bound key distinct, ← holds]
    apply keys_load
    · rw [holds]
      exact distinct.sublist (latest_suffix _ _).sublist
    · rw [holds, length_latest, room_room]

theorem keys_run (bound : Option Nat) (state : σ) (uses : List (Use τ σ)) :
    ((empty bound : Cache τ).run state uses).1.bound = bound ∧
      ((empty bound : Cache τ).run state uses).1.keys = latest bound (recent uses) := by
  induction uses using List.reverseRecOn with
  | nil => exact ⟨rfl, (latest_nil bound).symm⟩
  | append_singleton uses use ih =>
    obtain ⟨same, holds⟩ := ih
    rw [run_concat, bound_apply, same]
    refine ⟨rfl, ?_⟩
    have next := keys_apply (holds.trans (by rw [same])) ((empty bound : Cache τ).run state uses).2 use
    rwa [same] at next

theorem Use.misses_le {more : List Int} (subset : keys ⊆ more) (use : Use τ σ) :
    use.misses more ≤ use.misses keys := by
  cases use with
  | load key provide =>
    simp only [Use.misses]
    by_cases present : key ∈ keys
    · rw [if_pos present, if_pos (subset present)]
    · rw [if_neg present]
      split_ifs <;> omega
  | _ => exact le_rfl

theorem misses_run_le (tighter : Tighter bound wider) (state state' : σ) (uses : List (Use τ σ)) :
    ((empty wider : Cache τ).run state' uses).1.misses ≤
      ((empty bound : Cache τ).run state uses).1.misses := by
  induction uses using List.reverseRecOn with
  | nil => exact le_rfl
  | append_singleton uses use ih =>
    have subset := (latest_suffix_latest tighter (recent uses)).subset
    rw [run_concat, run_concat, misses_apply, misses_apply]
    apply Nat.add_le_add ih
    apply Use.misses_le
    rw [(keys_run bound state uses).2, (keys_run wider state' uses).2]
    exact subset

/-- A cache holds the keys used last, in the order of their last use; caches with different bounds that
are used alike hold ends of one order, and the wider one misses no more often. -/
theorem keys_eq_latest (bound : Option Nat) (uses : List (Use τ σ)) (state : σ) :
    ((empty bound : Cache τ).run state uses).1.keys =
        (recent uses).rtake (room bound (recent uses).length) ∧
      ∀ wider state', Tighter bound wider →
        ((empty bound : Cache τ).run state uses).1.keys <:+
            ((empty wider : Cache τ).run state' uses).1.keys ∧
          ((empty wider : Cache τ).run state' uses).1.misses ≤
            ((empty bound : Cache τ).run state uses).1.misses := by
  refine ⟨(keys_run bound state uses).2, fun wider state' tighter => ⟨?_, ?_⟩⟩
  · rw [(keys_run bound state uses).2, (keys_run wider state' uses).2]
    exact latest_suffix_latest tighter (recent uses)
  · exact misses_run_le tighter state state' uses

/-- Two tiles stand in a cache for two until a third one comes, and then leave in turn. -/
def shuffle : List (Use Nat Nat) :=
  let provide (count : Nat) := (count, count + 1)
  [.put 9 0, .clear, .put 1 7, .load 2 provide, .load 1 provide, .load 3 provide, .load 2 provide]

theorem keys_eq_latest_shuffle :
    Tighter (some 2) (some 3) ∧
      ((empty (some 2) : Cache Nat).run 0 shuffle).1.keys = [3, 2] ∧
      ((empty (some 2) : Cache Nat).run 0 shuffle).1.keys <:+
        ((empty (some 3) : Cache Nat).run 0 shuffle).1.keys ∧
      ((empty (some 3) : Cache Nat).run 0 shuffle).1.misses ≤
        ((empty (some 2) : Cache Nat).run 0 shuffle).1.misses := by
  have tighter : Tighter (some 2) (some 3) := by
    rintro most ⟨⟩
    exact ⟨2, rfl, by decide⟩
  obtain ⟨keys, compared⟩ := keys_eq_latest (some 2) shuffle 0
  exact ⟨tighter, keys.trans rfl, compared (some 3) 0 tighter⟩

end Elevation.Cache
