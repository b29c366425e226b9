import Elevation.Proofs.Cache.Recency

/-!
The accounts of a cache. Whatever is done with a cache, and whatever the loads themselves do with it
before they succeed or fail, its counters tell what has happened: every call that has ended was a hit
or a miss, every miss was a load, and every tile that came in is there still, was evicted or was
dropped by a clear.
-/

namespace Elevation.Cache

variable {τ ε : Type}

/-! ### What is done with a cache -/

inductive Event (τ ε : Type) where
  | read (key : Int) (before after : Cache τ)
  | stored (key : Int) (tile : τ) (before after : Cache τ)
  /-- A load begins, after the miss has been counted. -/
  | started (key : Int) (cache : Cache τ)
  /-- A call for a tile ends, whether or not it had to load. -/
  | ended (key : Int) (result : Except ε τ) (before after : Cache τ)
  | cleared (before after : Cache τ)

/-- A load that adds to what has happened when it begins, and which tile it hands over to be stored. -/
def recorded (key : Int) (load : Load τ ε (List (Event τ ε))) : Load τ ε (List (Event τ ε)) :=
  fun cache history =>
    match load cache (history ++ [.started key cache]) with
    | (.ok tile, cache, history) =>
      (.ok tile, cache, history ++ [.stored key tile cache (cache.put key tile)])
    | (.error failure, cache, history) => (.error failure, cache, history)

/-- A call for a tile, which notes when it ends. -/
def call (key : Int) (load : Load τ ε (List (Event τ ε))) : Load τ ε (List (Event τ ε)) :=
  fun cache history =>
    let (result, after, history) := cache.getOrLoad key (recorded key load) history
    (result, after, history ++ [.ended key result cache after])

/-- Work with a cache, where each step may depend on what the steps before it gave. The load that a
tile is asked for with is such work again. -/
inductive Work (τ ε : Type) where
  | done (result : Except ε τ)
  | get (key : Int) (next : Option τ → Work τ ε)
  | put (key : Int) (tile : τ) (next : Work τ ε)
  | ask (key : Int) (load : Work τ ε) (next : Except ε τ → Work τ ε)
  | clear (next : Work τ ε)

def Work.perform : Work τ ε → Load τ ε (List (Event τ ε))
  | .done result => fun cache history => (result, cache, history)
  | .get key next => fun cache history =>
    let (tile, after) := cache.get key
    (next tile).perform after (history ++ [.read key cache after])
  | .put key tile next => fun cache history =>
    next.perform (cache.put key tile) (history ++ [.stored key tile cache (cache.put key tile)])
  | .ask key load next => fun cache history =>
    let (result, after, history) := call key load.perform cache history
    (next result).perform after history
  | .clear next => fun cache history =>
    next.perform cache.clear (history ++ [.cleared cache cache.clear])

namespace Event

def caches : Event τ ε → List (Cache τ)
  | .started _ cache => [cache]
  | .read _ before after | .stored _ _ before after | .ended _ _ before after
  | .cleared before after => [before, after]

def isStart : Event τ ε → Bool
  | .started _ _ => true
  | _ => false

def isEnd : Event τ ε → Bool
  | .ended _ _ _ _ => true
  | _ => false

def isNew : Event τ ε → Bool
  | .stored key _ before _ => key ∉ before.keys
  | _ => false

def dropped : Event τ ε → Nat
  | .cleared before _ => before.size
  | _ => 0

/-- A tile is stored, or a call ends with it. -/
def Leaves (event : Event τ ε) (key : Int) (tile : τ) (after : Cache τ) : Prop :=
  ∃ before, event = .stored key tile before after ∨ event = .ended key (.ok tile) before after

end Event

/-- A cache that keeps a bound and has no key twice. -/
structure Neat (bound : Option Nat) (cache : Cache τ) : Prop where
  same : cache.bound = bound
  distinct : cache.keys.Nodup
  fits : ∀ most, bound = some most → cache.keys.length ≤ most

structure Latest (cache : Cache τ) (key : Int) (tile : τ) : Prop where
  found : cache.find? key = some tile
  last : cache.keys.getLast? = some key

variable {bound : Option Nat} {cache : Cache τ} {key : Int} {tile : τ} {history : List (Event τ ε)}
  {running : Nat}

/-! ### One operation -/

theorem nodup_toEnd {keys : List Int} (key : Int) (distinct : keys.Nodup) : (toEnd key keys).Nodup := by
  refine List.nodup_append.mpr ⟨distinct.filter _, List.nodup_singleton key, ?_⟩
  intro other kept last same
  rw [List.mem_singleton] at same
  simp only [List.mem_filter, decide_eq_true_eq] at kept
  exact fun equal => kept.2 (equal.trans same)

theorem size_eq_length_keys (cache : Cache τ) : cache.size = cache.keys.length :=
  (List.length_map _).symm

theorem latest_of_entries {front : List (Int × τ)} (split : cache.entries = front ++ [(key, tile)])
    (distinct : cache.keys.Nodup) : Latest cache key tile := by
  constructor
  · exact (lookup_eq_some_iff_mem distinct).mpr (by simp [split])
  · simp [keys, split]

theorem Neat.placeLast (neat : Neat bound cache) (present : key ∈ cache.keys) (tile : τ) :
    Neat bound (cache.placeLast key tile) ∧ Latest (cache.placeLast key tile) key tile ∧
      (cache.placeLast key tile).size = cache.size := by
  have keys := keys_placeLast cache key tile
  have length : (cache.placeLast key tile).keys.length = cache.keys.length := by
    rw [keys, length_toEnd key neat.distinct, if_pos present]
  have distinct : (cache.placeLast key tile).keys.Nodup := by
    rw [keys]
    exact nodup_toEnd key neat.distinct
  refine ⟨⟨neat.same, distinct, ?_⟩, latest_of_entries rfl distinct, ?_⟩
  · intro most bounded
    rw [length]
    exact neat.fits most bounded
  · rw [size_eq_length_keys, length, size_eq_length_keys]

theorem Neat.put (neat : Neat bound cache) (key : Int) (tile : τ) :
    Neat bound (cache.put key tile) := by
  refine ⟨neat.same, ?_, ?_⟩
  · rw [keys_put]
    exact (nodup_toEnd key neat.distinct).sublist (latest_suffix _ _).sublist
  · intro most bounded
    rw [keys_put, length_latest, neat.same, bounded]
    exact min_le_left most _

theorem Neat.latest_put (neat : Neat bound cache) (positive : bound ≠ some 0) (key : Int) (tile : τ) :
    Latest (cache.put key tile) key tile := by
  have few : (cache.placeLast key tile).excess ≤ (without key cache.entries).length := by
    have same : (cache.placeLast key tile).bound = bound := neat.same
    rw [excess, same]
    cases bound with
    | none => exact Nat.zero_le _
    | some most =>
      have some : most ≠ 0 := fun zero => positive (congrArg Option.some zero)
      simp only [Cache.placeLast, List.length_append, List.length_singleton]
      omega
  have split : (cache.put key tile).entries =
      (without key cache.entries).drop (cache.placeLast key tile).excess ++ [(key, tile)] :=
    List.drop_append_of_le_length few
  exact latest_of_entries split (neat.put key tile).distinct

theorem Neat.size_put (neat : Neat bound cache) (key : Int) (tile : τ) :
    (cache.put key tile).size + (cache.put key tile).evictions =
      cache.size + cache.evictions + if key ∈ cache.keys then 0 else 1 := by
  have length : (cache.placeLast key tile).size =
      if key ∈ cache.keys then cache.size else cache.size + 1 := by
    rw [size_eq_length_keys, keys_placeLast, length_toEnd key neat.distinct, size_eq_length_keys]
  have few : (cache.placeLast key tile).excess ≤ (cache.placeLast key tile).size := by
    unfold excess size
    split <;> omega
  have left : (cache.put key tile).size =
      (cache.placeLast key tile).size - (cache.placeLast key tile).excess := List.length_drop
  have evicted : (cache.put key tile).evictions =
      cache.evictions + (cache.placeLast key tile).excess := rfl
  rw [left, evicted]
  split_ifs at length ⊢ <;> omega

/-! ### One event -/

structure Event.Sound (bound : Option Nat) (event : Event τ ε) : Prop where
  neat : ∀ cache ∈ event.caches, Neat bound cache
  latest : ∀ key tile after, event.Leaves key tile after → Latest after key tile

/-- The accounts of a cache after what has happened to it, while so many calls have not ended yet. -/
structure Accounts (bound : Option Nat) (running : Nat) (cache : Cache τ) (history : List (Event τ ε)) :
    Prop where
  neat : Neat bound cache
  events : ∀ event ∈ history, event.Sound bound
  calls : cache.hits + cache.misses = history.countP Event.isEnd + running
  loads : cache.misses = history.countP Event.isStart
  tiles : history.countP Event.isNew =
    cache.size + cache.evictions + (history.map Event.dropped).sum

theorem Accounts.concat {running' : Nat} {next : Cache τ} {event : Event τ ε}
    (accounts : Accounts bound running cache history) (neat : Neat bound next) (sound : event.Sound bound)
    (calls : next.hits + next.misses + running =
      cache.hits + cache.misses + event.isEnd.toNat + running')
    (loads : next.misses = cache.misses + event.isStart.toNat)
    (tiles : cache.size + cache.evictions + event.isNew.toNat =
      next.size + next.evictions + event.dropped) :
    Accounts bound running' next (history ++ [event]) := by
  have one (p : Event τ ε → Bool) : [event].countP p = (p event).toNat := by
    rw [List.countP_singleton]
    cases p event <;> rfl
  refine ⟨neat, ?_, ?_, ?_, ?_⟩
  · intro other present
    rcases List.mem_append.mp present with old | new
    · exact accounts.events other old
    · rw [List.mem_singleton.mp new]
      exact sound
  · rw [List.countP_append, one]
    have before := accounts.calls
    omega
  · rw [List.countP_append, one, loads, accounts.loads]
  · rw [List.countP_append, one, List.map_append, List.sum_append, accounts.tiles]
    simp only [List.map_cons, List.map_nil, List.sum_cons, List.sum_nil]
    omega

theorem Event.sound_of_quiet {event : Event τ ε} (neat : ∀ cache ∈ event.caches, Neat bound cache)
    (quiet : ∀ key tile after, ¬ event.Leaves key tile after) : event.Sound bound :=
  ⟨neat, fun key tile after leaves => absurd leaves (quiet key tile after)⟩

theorem Accounts.get (accounts : Accounts bound running cache history) (key : Int) :
    Accounts bound running (cache.get key).2 (history ++ [.read key cache (cache.get key).2]) := by
  have next : Neat bound (cache.get key).2 ∧ (cache.get key).2.size = cache.size ∧
      (cache.get key).2.hits = cache.hits ∧ (cache.get key).2.misses = cache.misses ∧
      (cache.get key).2.evictions = cache.evictions := by
    unfold Cache.get
    cases found : cache.find? key with
    | none => exact ⟨accounts.neat, rfl, rfl, rfl, rfl⟩
    | some tile =>
      obtain ⟨neat, -, size⟩ := accounts.neat.placeLast (mem_keys_of_find? found) tile
      exact ⟨neat, size, rfl, rfl, rfl⟩
  obtain ⟨neat, size, hits, misses, evictions⟩ := next
  refine accounts.concat neat (Event.sound_of_quiet ?_ ?_) ?_ ?_ ?_
  · simpa [Event.caches] using ⟨accounts.neat, neat⟩
  · simp [Event.Leaves]
  · simp [Event.isEnd, hits, misses]
  · simp [Event.isStart, misses]
  · simp [Event.isNew, Event.dropped, size, evictions]

theorem Accounts.put (accounts : Accounts bound running cache history) (positive : bound ≠ some 0)
    (key : Int) (tile : τ) : Accounts bound running (cache.put key tile)
      (history ++ [.stored key tile cache (cache.put key tile)]) := by
  have neat := accounts.neat.put key tile
  refine accounts.concat neat ⟨?_, ?_⟩ rfl rfl ?_
  · simpa [Event.caches] using ⟨accounts.neat, neat⟩
  · rintro key tile after ⟨before, leaves | leaves⟩
    · cases leaves
      exact accounts.neat.latest_put positive key tile
    · cases leaves
  · have counted := accounts.neat.size_put key tile
    by_cases present : key ∈ cache.keys
    · rw [if_pos present] at counted
      simp only [Event.isNew, Event.dropped, present, not_true_eq_false, decide_false, Bool.toNat_false]
      omega
    · rw [if_neg present] at counted
      simp only [Event.isNew, Event.dropped, present, not_false_eq_true, decide_true, Bool.toNat_true]
      omega

theorem Accounts.clear (accounts : Accounts bound running cache history) :
    Accounts bound running cache.clear (history ++ [.cleared cache cache.clear]) := by
  have neat : Neat bound cache.clear :=
    ⟨accounts.neat.same, List.nodup_nil, fun most _ => Nat.zero_le most⟩
  refine accounts.concat neat (Event.sound_of_quiet ?_ ?_) rfl rfl ?_
  · simpa [Event.caches] using ⟨accounts.neat, neat⟩
  · simp [Event.Leaves]
  · simp [Event.isNew, Event.dropped, Cache.clear, size, Nat.add_comm]

theorem Accounts.start (accounts : Accounts bound running cache history) (key : Int) :
    Accounts bound (running + 1) cache.miss (history ++ [.started key cache.miss]) := by
  have neat : Neat bound cache.miss := ⟨accounts.neat.same, accounts.neat.distinct, accounts.neat.fits⟩
  refine accounts.concat neat (Event.sound_of_quiet ?_ ?_) ?_ rfl rfl
  · simpa [Event.caches] using neat
  · simp [Event.Leaves]
  · simp only [miss, Event.isEnd, Bool.toNat_false]
    omega

theorem Accounts.stop {before : Cache τ} {result : Except ε τ}
    (accounts : Accounts bound (running + 1) cache history) (neat : Neat bound before)
    (latest : ∀ tile, result = .ok tile → Latest cache key tile) :
    Accounts bound running cache (history ++ [.ended key result before cache]) := by
  refine accounts.concat accounts.neat ⟨?_, ?_⟩ ?_ rfl rfl
  · simpa [Event.caches] using ⟨neat, accounts.neat⟩
  · rintro other tile after ⟨before, leaves | leaves⟩
    · cases leaves
    · cases leaves
      exact latest tile rfl
  · simp only [Event.isEnd, Bool.toNat_true]
    omega

theorem Accounts.hit (accounts : Accounts bound running cache history)
    (found : cache.find? key = some tile) :
    Accounts bound running (cache.placeLast key tile).hit
      (history ++ [.ended key (.ok tile) cache (cache.placeLast key tile).hit]) := by
  obtain ⟨neat, latest, size⟩ := accounts.neat.placeLast (mem_keys_of_find? found) tile
  have neat' : Neat bound (cache.placeLast key tile).hit := ⟨neat.same, neat.distinct, neat.fits⟩
  refine accounts.concat neat' ⟨?_, ?_⟩ ?_ rfl ?_
  · simpa [Event.caches] using ⟨accounts.neat, neat'⟩
  · rintro other tile after ⟨before, leaves | leaves⟩
    · cases leaves
    · cases leaves
      exact ⟨latest.found, latest.last⟩
  · simp only [Cache.hit, Cache.placeLast, Event.isEnd, Bool.toNat_true]
    omega
  · have same : (cache.placeLast key tile).hit.size = cache.size := size
    rw [same]
    rfl

/-! ### Calls and work -/

theorem call_of_find? (found : cache.find? key = some tile) (load : Load τ ε (List (Event τ ε)))
    (history : List (Event τ ε)) : call key load cache history =
      (.ok tile, (cache.placeLast key tile).hit,
        history ++ [.ended key (.ok tile) cache (cache.placeLast key tile).hit]) := by
  simp only [call, getOrLoad_of_find? found]

theorem call_of_absent (absent : cache.find? key = none) (load : Load τ ε (List (Event τ ε)))
    (history : List (Event τ ε)) : call key load cache history =
      match load cache.miss (history ++ [.started key cache.miss]) with
      | (.ok tile, after, history) => (.ok tile, after.put key tile,
          history ++ [.stored key tile after (after.put key tile)] ++
            [.ended key (.ok tile) cache (after.put key tile)])
      | (.error failure, after, history) =>
        (.error failure, after, history ++ [.ended key (.error failure) cache after]) := by
  simp only [call, getOrLoad_of_absent absent, recorded]
  generalize load cache.miss (history ++ [.started key cache.miss]) = outcome
  obtain ⟨failure | tile, after, history'⟩ := outcome <;> rfl

/-- A load that keeps the accounts makes a call that keeps them. -/
theorem Accounts.call {load : Load τ ε (List (Event τ ε))}
    (accounts : Accounts bound running cache history) (positive : bound ≠ some 0) (key : Int)
    (keeps : ∀ {cache history}, Accounts bound (running + 1) cache history →
      Accounts bound (running + 1) (load cache history).2.1 (load cache history).2.2) :
    Accounts bound running (Cache.call key load cache history).2.1
      (Cache.call key load cache history).2.2 := by
  cases found : cache.find? key with
  | some tile =>
    rw [call_of_find? found]
    exact accounts.hit found
  | none =>
    have loaded := keeps (accounts.start key)
    rw [call_of_absent found]
    generalize load cache.miss (history ++ [.started key cache.miss]) = outcome at loaded ⊢
    obtain ⟨failure | tile, after, history'⟩ := outcome
    · exact loaded.stop accounts.neat fun tile given => by cases given
    · refine (loaded.put positive key tile).stop accounts.neat fun other given => ?_
      cases given
      exact loaded.neat.latest_put positive key tile

/-- Whatever the work does, the accounts are kept. -/
theorem Accounts.perform (positive : bound ≠ some 0) (work : Work τ ε)
    (accounts : Accounts bound running cache history) :
    Accounts bound running (work.perform cache history).2.1 (work.perform cache history).2.2 := by
  induction work generalizing running cache history with
  | done result => exact accounts
  | get key next ih => exact ih _ (accounts.get key)
  | put key tile next ih => exact ih (accounts.put positive key tile)
  | ask key load next ih ih' => exact ih' _ (accounts.call positive key ih)
  | clear next ih => exact ih accounts.clear

theorem started_prefix_call {load : Load τ ε (List (Event τ ε))} (absent : cache.find? key = none)
    (later : ∀ cache history, history <+: (load cache history).2.2) (history : List (Event τ ε)) :
    history ++ [.started key cache.miss] <+: (call key load cache history).2.2 := by
  have loaded := later cache.miss (history ++ [.started key cache.miss])
  rw [call_of_absent absent]
  generalize load cache.miss (history ++ [.started key cache.miss]) = outcome at loaded ⊢
  obtain ⟨failure | tile, after, history'⟩ := outcome
  · exact loaded.trans (List.prefix_append _ _)
  · exact loaded.trans ((List.prefix_append _ _).trans (List.prefix_append _ _))

theorem Work.prefix_perform (work : Work τ ε) (cache : Cache τ) (history : List (Event τ ε)) :
    history <+: (work.perform cache history).2.2 := by
  induction work generalizing cache history with
  | done result => exact List.prefix_rfl
  | get key next ih => exact (List.prefix_append _ _).trans (ih _ _ _)
  | put key tile next ih => exact (List.prefix_append _ _).trans (ih _ _)
  | ask key load next ih ih' =>
    have called : history <+: (call key load.perform cache history).2.2 := by
      cases found : cache.find? key with
      | some tile =>
        rw [call_of_find? found]
        exact List.prefix_append _ _
      | none => exact (List.prefix_append _ _).trans (started_prefix_call found ih history)
    exact called.trans (ih' _ _ _)
  | clear next ih => exact (List.prefix_append _ _).trans (ih _ _)

theorem accounts_empty (bound : Option Nat) :
    Accounts bound 0 (empty bound : Cache τ) ([] : List (Event τ ε)) :=
  ⟨⟨rfl, List.nodup_nil, fun most _ => Nat.zero_le most⟩, by simp, rfl, rfl, rfl⟩

theorem create_ok {bound : Option Int} {start : Cache τ} (created : create bound = .ok start) :
    ∃ room : Option Nat, start = empty room ∧ room ≠ some 0 ∧ bound = room.map Int.ofNat := by
  unfold create at created
  cases bound with
  | none =>
    cases created
    exact ⟨none, rfl, by simp, rfl⟩
  | some most =>
    simp only at created
    split_ifs at created with small
    cases created
    refine ⟨some most.toNat, rfl, ?_, ?_⟩
    · simp only [ne_eq, Option.some.injEq]
      omega
    · simp only [Option.map_some, Option.some.injEq]
      exact (Int.toNat_of_nonneg (by omega)).symm

/-- The accounts of a cache are right after any work, and at all times the cache has no key twice and
keeps its bound. What has just been stored, or what a call has just given, is there and comes last. A
call loads exactly if the tile is not there. -/
theorem accounts_perform {bound : Option Int} {start cache : Cache τ} {result : Except ε τ}
    {history : List (Event τ ε)} (created : create bound = .ok start) (work : Work τ ε)
    (performed : work.perform start [] = (result, cache, history)) :
    (∀ moment, moment = cache ∨ (∃ event ∈ history, moment ∈ event.caches) →
      moment.keys.Nodup ∧ ∀ most, bound = some most → (moment.keys.length : Int) ≤ most) ∧
    (∀ event ∈ history, ∀ key tile after, event.Leaves key tile after →
      after.find? key = some tile ∧ after.keys.getLast? = some key) ∧
    cache.hits + cache.misses = history.countP Event.isEnd ∧
    cache.misses = history.countP Event.isStart ∧
    history.countP Event.isNew = cache.size + cache.evictions + (history.map Event.dropped).sum ∧
    ∀ key (load : Work τ ε) (cache : Cache τ) (history : List (Event τ ε)),
      (∀ tile, cache.find? key = some tile → call key load.perform cache history =
        (.ok tile, (cache.placeLast key tile).hit,
          history ++ [.ended key (.ok tile) cache (cache.placeLast key tile).hit])) ∧
      (cache.find? key = none →
        history ++ [.started key cache.miss] <+: (call key load.perform cache history).2.2) := by
  obtain ⟨room, rfl, positive, rfl⟩ := create_ok created
  have accounts := (accounts_empty room).perform positive work
  rw [performed] at accounts
  refine ⟨?_, ?_, accounts.calls, accounts.loads, accounts.tiles, ?_⟩
  · intro moment met
    have neat : Neat room moment := by
      rcases met with rfl | ⟨event, happened, present⟩
      · exact accounts.neat
      · exact (accounts.events event happened).neat moment present
    refine ⟨neat.distinct, ?_⟩
    intro most bounded
    obtain ⟨limit, same, rfl⟩ := Option.map_eq_some_iff.mp bounded
    exact Int.ofNat_le.mpr (neat.fits limit same)
  · intro event happened key tile after leaves
    obtain ⟨found, last⟩ := (accounts.events event happened).latest key tile after leaves
    exact ⟨found, last⟩
  · intro key load cache history
    exact ⟨fun tile found => call_of_find? found _ history,
      fun absent => started_prefix_call absent load.prefix_perform history⟩

/-- Loads within a load, one of which fails, in a cache for two tiles. -/
def nest : Work Nat String :=
  .put 1 10 <| .ask 2 (.ask 3 (.done (.error "no archive")) fun _ => .ask 4 (.done (.ok 40)) fun _ =>
    .done (.ok 20)) fun _ => .ask 4 (.done (.ok 41)) fun _ => .get 2 fun _ => .put 4 42 <| .clear <|
      .ask 1 (.done (.error "no archive")) fun result => .done result

theorem accounts_perform_nest : ∃ cache result history,
    (create (some 2) : Except Failure (Cache Nat)) = .ok (empty (some 2)) ∧
      nest.perform (empty (some 2)) [] = (result, cache, history) ∧
      history.countP Event.isEnd = 5 ∧ cache.hits + cache.misses = 5 ∧
      history.countP Event.isNew = 3 ∧
      cache.size + cache.evictions + (history.map Event.dropped).sum = 3 := by
  have created : (create (some 2) : Except Failure (Cache Nat)) = .ok (empty (some 2)) := rfl
  obtain ⟨-, -, calls, -, tiles, -⟩ := accounts_perform created nest rfl
  have ended : (nest.perform (empty (some 2)) []).2.2.countP Event.isEnd = 5 := by rfl
  have new : (nest.perform (empty (some 2)) []).2.2.countP Event.isNew = 3 := by rfl
  exact ⟨_, _, _, created, rfl, ended, calls.trans ended, new, tiles.symm.trans new⟩

end Elevation.Cache
