import Elevation.Proofs.Cache.Steps

/-!
The gates of a cache that several threads load. In every state that steps lead to, the table has a
gate for exactly the keys on which calls are under way, all calls on a key know the same gate, the
gate counts them, and a gate is held by the one thread that has a call inside.
-/

namespace Elevation.Cache.Loading

variable {τ ε : Type}

/-- Whether a call has passed its gate and not opened it again. -/
def Phase.isInside : Phase τ ε → Bool
  | .waiting | .leaving _ => false
  | .looking | .missed | .loading | .storing _ | .opening _ => true

def Call.isOn (key : Int) (call : Call τ ε) : Bool := call.key = key

def Call.isInside (gate : Nat) (call : Call τ ε) : Bool := call.gate = gate && call.phase.isInside

noncomputable def tally (calls : Thread → List (Call τ ε)) (key : Int) : Nat :=
  ∑ᶠ thread, (calls thread).countP (Call.isOn key)

/-- Only the innermost call of a thread does anything; those around it run their loads. -/
def Nested (calls : List (Call τ ε)) : Prop := ∀ call ∈ calls.tail, call.phase = .loading

/-- Of a thread's calls, one is inside a gate that the thread holds, and none inside any other. -/
def Gate.Fits (entry : Gate) (gate : Nat) (thread : Thread) (calls : List (Call τ ε)) : Prop :=
  calls.countP (Call.isInside gate) = if entry.holder = some thread then 1 else 0

def Busy (calls : Thread → List (Call τ ε)) : Set Thread := {thread | calls thread ≠ []}

/-! ### Counting calls -/

theorem setAt_self {β : Type} (f : Nat → β) (place : Nat) (value : β) :
    setAt f place value place = value := if_pos rfl

theorem setAt_of_ne {β : Type} {f : Nat → β} {place other : Nat} (value : β) (away : other ≠ place) :
    setAt f place value other = f other := if_neg away

theorem setAt_forall {β : Type} {P : Nat → β → Prop} {f : Nat → β} {place : Nat} {value : β}
    (here : P place value) (there : ∀ other, other ≠ place → P other (f other)) :
    ∀ other, P other (setAt f place value other) := by
  intro other
  by_cases same : other = place
  · subst same
    rwa [setAt_self]
  · rw [setAt_of_ne value same]
    exact there other same

theorem countP_isOn_cons (name key : Int) (gate : Nat) (phase : Phase τ ε) (outer : List (Call τ ε)) :
    (⟨key, gate, phase⟩ :: outer : List (Call τ ε)).countP (Call.isOn name) =
      outer.countP (Call.isOn name) + if key = name then 1 else 0 := by
  simp [List.countP_cons, Call.isOn]

theorem countP_isInside_cons (place : Nat) (key : Int) (gate : Nat) (phase : Phase τ ε)
    (outer : List (Call τ ε)) :
    (⟨key, gate, phase⟩ :: outer : List (Call τ ε)).countP (Call.isInside place) =
      outer.countP (Call.isInside place) + if gate = place ∧ phase.isInside = true then 1 else 0 := by
  simp [List.countP_cons, Call.isInside]

theorem busy_setAt_finite {calls : Thread → List (Call τ ε)} (finite : (Busy calls).Finite)
    (thread : Thread) (new : List (Call τ ε)) : (Busy (setAt calls thread new)).Finite := by
  apply (finite.insert thread).subset
  intro other busy
  by_cases same : other = thread
  · exact Or.inl same
  · exact Or.inr (by simpa [Busy, setAt_of_ne new same] using busy)

theorem tally_eq_sum {calls : Thread → List (Call τ ε)} (threads : Finset Thread)
    (all : Busy calls ⊆ threads) (key : Int) :
    tally calls key = ∑ thread ∈ threads, (calls thread).countP (Call.isOn key) := by
  apply finsum_eq_sum_of_support_subset
  intro thread counted
  apply all
  intro idle
  simp [idle] at counted

theorem tally_setAt {calls : Thread → List (Call τ ε)} (finite : (Busy calls).Finite)
    (thread : Thread) (new : List (Call τ ε)) (key : Int) :
    tally (setAt calls thread new) key + (calls thread).countP (Call.isOn key) =
      tally calls key + new.countP (Call.isOn key) := by
  have changed := busy_setAt_finite finite thread new
  let threads := insert thread (finite.toFinset ∪ changed.toFinset)
  have member : thread ∈ threads := Finset.mem_insert_self _ _
  rw [tally_eq_sum threads (fun other busy => by simp [threads, busy]) key,
    @tally_eq_sum _ _ calls threads (fun other busy => by simp [threads, busy]) key,
    ← Finset.add_sum_erase threads _ member,
    ← Finset.add_sum_erase threads (fun other => (calls other).countP (Call.isOn key)) member]
  have rest : ∑ other ∈ threads.erase thread, (setAt calls thread new other).countP (Call.isOn key) =
      ∑ other ∈ threads.erase thread, (calls other).countP (Call.isOn key) := by
    apply Finset.sum_congr rfl
    intro other away
    rw [setAt_of_ne new (Finset.ne_of_mem_erase away)]
  rw [rest, setAt_self]
  omega

theorem tally_pos_iff {calls : Thread → List (Call τ ε)} (finite : (Busy calls).Finite) (key : Int) :
    0 < tally calls key ↔ ∃ thread, ∃ call ∈ calls thread, call.key = key := by
  rw [tally_eq_sum finite.toFinset (by simp) key, Finset.sum_pos_iff]
  simp only [List.countP_pos_iff, Call.isOn, decide_eq_true_eq, Set.Finite.mem_toFinset]
  constructor
  · rintro ⟨thread, -, call, present, on⟩
    exact ⟨thread, call, present, on⟩
  · rintro ⟨thread, call, present, on⟩
    exact ⟨thread, List.ne_nil_of_mem present, call, present, on⟩

namespace State

/-! ### The invariant -/

structure Coherent (state : State τ ε) : Prop where
  nested : ∀ thread, Nested (state.calls thread)
  finite : (Busy state.calls).Finite
  gated : ∀ thread, ∀ call ∈ state.calls thread, state.table.lookup call.key = some call.gate
  fresh : ∀ key gate, state.table.lookup key = some gate → gate < state.fresh
  apart : ∀ key other gate, state.table.lookup key = some gate →
    state.table.lookup other = some gate → key = other
  users : ∀ key gate, state.table.lookup key = some gate →
    (state.gates gate).users = tally state.calls key ∧ 0 < tally state.calls key
  holders : ∀ gate thread, (state.gates gate).Fits gate thread (state.calls thread)

theorem coherent_start (cache : Cache τ) : Coherent (start cache : State τ ε) where
  nested := by simp [start, Nested]
  finite := by simp [start, Busy]
  gated := by simp [start]
  fresh := by simp [start]
  apart := by simp [start]
  users := by simp [start]
  holders := by simp [start, Gate.Fits]

variable {state : State τ ε} {thread : Thread} {key : Int} {gate : Nat} {outer : List (Call τ ε)}

theorem Coherent.withCache (coherent : Coherent state) (cache : Cache τ)
    (results : List (Thread × Except ε τ)) :
    Coherent { state with cache := cache, results := results } :=
  ⟨coherent.nested, coherent.finite, coherent.gated, coherent.fresh, coherent.apart, coherent.users,
    coherent.holders⟩

theorem Coherent.lookup_top (coherent : Coherent state) {phase : Phase τ ε}
    (top : state.calls thread = ⟨key, gate, phase⟩ :: outer) :
    state.table.lookup key = some gate :=
  coherent.gated thread ⟨key, gate, phase⟩ (top ▸ List.mem_cons_self)

/-! ### Steps that move a call on -/

/-- The innermost call of a thread enters another phase, and gates change hands accordingly. -/
theorem Coherent.rephase (coherent : Coherent state) {old new : Phase τ ε}
    (top : state.calls thread = ⟨key, gate, old⟩ :: outer) (gates : Nat → Gate)
    (users : ∀ place, (gates place).users = (state.gates place).users)
    (holders : ∀ place other,
      (gates place).Fits place other (setAt state.calls thread (⟨key, gate, new⟩ :: outer) other)) :
    Coherent { state with
      gates := gates, calls := setAt state.calls thread (⟨key, gate, new⟩ :: outer) } where
  nested := setAt_forall (P := fun _ => Nested)
    (fun call present => coherent.nested thread call (by rw [top]; exact present))
    (fun other _ => coherent.nested other)
  finite := busy_setAt_finite coherent.finite thread _
  gated := by
    apply setAt_forall (P := fun _ (calls : List (Call τ ε)) =>
      ∀ call ∈ calls, state.table.lookup call.key = some call.gate)
    · intro call present
      rcases List.mem_cons.mp present with first | later
      · exact first ▸ coherent.lookup_top top
      · exact coherent.gated thread call (top ▸ List.mem_cons_of_mem _ later)
    · exact fun other _ => coherent.gated other
  fresh := coherent.fresh
  apart := coherent.apart
  users := by
    intro name place present
    have counted := coherent.users name place present
    have same : tally (setAt state.calls thread (⟨key, gate, new⟩ :: outer)) name =
        tally state.calls name := by
      have count := tally_setAt coherent.finite thread (⟨key, gate, new⟩ :: outer) name
      rw [top, countP_isOn_cons, countP_isOn_cons] at count
      omega
    change (gates place).users = tally (setAt state.calls thread _) name ∧
      0 < tally (setAt state.calls thread _) name
    rw [same, users]
    exact counted
  holders := holders

/-- Gates that do not change hands fit a thread whose calls are inside as before. -/
theorem Coherent.fits_setAt (coherent : Coherent state) {gates : Nat → Gate} {calls : List (Call τ ε)}
    (holder : ∀ place, (gates place).holder = (state.gates place).holder)
    (inside : ∀ place, calls.countP (Call.isInside place) =
      (state.calls thread).countP (Call.isInside place)) (place : Nat) :
    ∀ other, (gates place).Fits place other (setAt state.calls thread calls other) := by
  apply setAt_forall (P := (gates place).Fits place)
  · have held := coherent.holders place thread
    unfold Gate.Fits at held ⊢
    rw [inside, holder, held]
  · intro other _
    have held := coherent.holders place other
    unfold Gate.Fits at held ⊢
    rw [holder, held]

theorem Coherent.advance (coherent : Coherent state) {old new : Phase τ ε}
    (top : state.calls thread = ⟨key, gate, old⟩ :: outer) (same : new.isInside = old.isInside) :
    Coherent (state.setCall thread ⟨key, gate, new⟩ outer) := by
  apply coherent.rephase top state.gates (fun _ => rfl)
  apply coherent.fits_setAt (fun _ => rfl)
  intro place
  rw [top, countP_isInside_cons, countP_isInside_cons, same]

theorem holder_setAt_users (gates : Nat → Gate) (gate users place : Nat) :
    (setAt gates gate { gates gate with users := users } place).holder = (gates place).holder := by
  by_cases same : place = gate
  · rw [same, setAt_self]
  · rw [setAt_of_ne _ same]

theorem users_setGate_holder (state : State τ ε) (gate : Nat) (holder : Option Thread) (place : Nat) :
    (setAt state.gates gate { state.gates gate with holder := holder } place).users =
      (state.gates place).users := by
  by_cases same : place = gate
  · rw [same, setAt_self]
  · rw [setAt_of_ne _ same]

theorem Coherent.enter (coherent : Coherent state)
    (top : state.calls thread = ⟨key, gate, .waiting⟩ :: outer)
    (unheld : (state.gates gate).holder = none) :
    Coherent ((state.setGate gate { state.gates gate with holder := some thread }).setCall thread
      ⟨key, gate, .looking⟩ outer) := by
  apply coherent.rephase top _ (users_setGate_holder state gate (some thread))
  intro place
  apply setAt_forall (P := Gate.Fits _ place)
  · have held := coherent.holders place thread
    unfold Gate.Fits at held ⊢
    rw [top, countP_isInside_cons] at held
    rw [countP_isInside_cons]
    by_cases same : place = gate
    · subst same
      simpa [setAt_self, unheld, Phase.isInside] using held
    · simpa [setAt_of_ne _ same, Ne.symm same] using held
  · intro other away
    have held := coherent.holders place other
    unfold Gate.Fits at held ⊢
    by_cases same : place = gate
    · subst same
      simpa [setAt_self, unheld, Ne.symm away] using held
    · rwa [setAt_of_ne _ same]

theorem Coherent.held_of_inside (coherent : Coherent state) {phase : Phase τ ε}
    (top : state.calls thread = ⟨key, gate, phase⟩ :: outer) (inside : phase.isInside = true) :
    (state.gates gate).holder = some thread ∧ outer.countP (Call.isInside gate) = 0 := by
  have held := coherent.holders gate thread
  unfold Gate.Fits at held
  rw [top, countP_isInside_cons, if_pos ⟨rfl, inside⟩] at held
  by_cases own : (state.gates gate).holder = some thread
  · rw [if_pos own] at held
    exact ⟨own, by omega⟩
  · rw [if_neg own] at held
    omega

theorem Coherent.release (coherent : Coherent state) {result : Except ε τ}
    (top : state.calls thread = ⟨key, gate, .opening result⟩ :: outer) :
    Coherent ((state.setGate gate { state.gates gate with holder := none }).setCall thread
      ⟨key, gate, .leaving result⟩ outer) := by
  obtain ⟨own, alone⟩ := coherent.held_of_inside top rfl
  apply coherent.rephase top _ (users_setGate_holder state gate none)
  intro place
  apply setAt_forall (P := Gate.Fits _ place)
  · have held := coherent.holders place thread
    unfold Gate.Fits at held ⊢
    rw [top, countP_isInside_cons] at held
    rw [countP_isInside_cons]
    by_cases same : place = gate
    · subst same
      simpa [setAt_self, Phase.isInside] using alone
    · simpa [setAt_of_ne _ same, Ne.symm same] using held
  · intro other away
    have held := coherent.holders place other
    unfold Gate.Fits at held ⊢
    by_cases same : place = gate
    · subst same
      simpa [setAt_self, own, Ne.symm away] using held
    · rwa [setAt_of_ne _ same]

/-! ### Steps that add or end a call -/

theorem loading_of_free {calls : List (Call τ ε)} (free : isFree calls = true)
    (nested : Nested calls) : ∀ call ∈ calls, call.phase = .loading := by
  intro call present
  match calls, free with
  | ⟨_, _, .loading⟩ :: rest, _ =>
    rcases List.mem_cons.mp present with first | later
    · exact first ▸ rfl
    · exact nested call later

theorem Coherent.tally_push (coherent : Coherent state) (thread : Thread) (key : Int) (gate : Nat)
    (phase : Phase τ ε) (name : Int) :
    tally (setAt state.calls thread (⟨key, gate, phase⟩ :: state.calls thread)) name =
      tally state.calls name + if key = name then 1 else 0 := by
  have count := tally_setAt coherent.finite thread (⟨key, gate, phase⟩ :: state.calls thread) name
  rw [countP_isOn_cons] at count
  omega

theorem Coherent.tally_pop (coherent : Coherent state) {phase : Phase τ ε}
    (top : state.calls thread = ⟨key, gate, phase⟩ :: outer) (name : Int) :
    tally (setAt state.calls thread outer) name + (if key = name then 1 else 0) =
      tally state.calls name := by
  have count := tally_setAt coherent.finite thread outer name
  rw [top, countP_isOn_cons] at count
  omega

/-- A table and gates that take in one more call on a key, at a gate that no other key has. -/
structure Admits (state : State τ ε) (key : Int) (gate : Nat) (table : List (Int × Nat))
    (gates : Nat → Gate) (fresh : Nat) : Prop where
  rows : ∀ name, table.lookup name = if name = key then some gate else state.table.lookup name
  before : ∀ old, state.table.lookup key = some old → old = gate
  own : ∀ name, state.table.lookup name = some gate → name = key
  room : gate < fresh ∧ state.fresh ≤ fresh
  holder : ∀ place, (gates place).holder = (state.gates place).holder
  entered : (gates gate).users = tally state.calls key + 1
  others : ∀ place, place ≠ gate → (gates place).users = (state.gates place).users

variable {table : List (Int × Nat)} {gates : Nat → Gate} {fresh : Nat}

theorem Admits.gated (admits : Admits state key gate table gates fresh) (coherent : Coherent state)
    (thread : Thread) (phase : Phase τ ε) :
    ∀ other, ∀ call ∈ setAt state.calls thread (⟨key, gate, phase⟩ :: state.calls thread) other,
      table.lookup call.key = some call.gate := by
  have known : ∀ other, ∀ call ∈ state.calls other, table.lookup call.key = some call.gate := by
    intro other call present
    have row := coherent.gated other call present
    rw [admits.rows]
    by_cases same : call.key = key
    · rw [if_pos same, admits.before call.gate (same ▸ row)]
    · rwa [if_neg same]
  apply setAt_forall (P := fun _ (calls : List (Call τ ε)) =>
    ∀ call ∈ calls, table.lookup call.key = some call.gate)
  · intro call present
    rcases List.mem_cons.mp present with first | later
    · rw [first, admits.rows, if_pos rfl]
    · exact known thread call later
  · exact fun other _ => known other

theorem Admits.lt_fresh (admits : Admits state key gate table gates fresh) (coherent : Coherent state)
    {name : Int} {place : Nat} (row : table.lookup name = some place) : place < fresh := by
  rw [admits.rows] at row
  by_cases same : name = key
  · rw [if_pos same] at row
    exact Option.some.inj row ▸ admits.room.1
  · rw [if_neg same] at row
    exact lt_of_lt_of_le (coherent.fresh name place row) admits.room.2

theorem Admits.apart (admits : Admits state key gate table gates fresh) (coherent : Coherent state)
    {name other : Int} {place : Nat} (row : table.lookup name = some place)
    (row' : table.lookup other = some place) : name = other := by
  rw [admits.rows] at row row'
  split_ifs at row row' with first second second
  · exact first.trans second.symm
  · exact absurd (admits.own other (row'.trans row.symm)) second
  · exact absurd (admits.own name (row.trans row'.symm)) first
  · exact coherent.apart name other place row row'

theorem Admits.users (admits : Admits state key gate table gates fresh) (coherent : Coherent state)
    (thread : Thread) (phase : Phase τ ε) {name : Int} {place : Nat}
    (row : table.lookup name = some place) :
    (gates place).users =
        tally (setAt state.calls thread (⟨key, gate, phase⟩ :: state.calls thread)) name ∧
      0 < tally (setAt state.calls thread (⟨key, gate, phase⟩ :: state.calls thread)) name := by
  rw [coherent.tally_push]
  rw [admits.rows] at row
  by_cases same : name = key
  · rw [if_pos same, Option.some.injEq] at row
    rw [if_pos same.symm, ← row, same, admits.entered]
    exact ⟨rfl, by omega⟩
  · rw [if_neg same] at row
    have away : place ≠ gate := fun equal => same (admits.own name (equal ▸ row))
    rw [if_neg (Ne.symm same), admits.others place away]
    exact coherent.users name place row

theorem Coherent.push (coherent : Coherent state) (free : isFree (state.calls thread) = true)
    (admits : Admits state key gate table gates fresh) :
    Coherent { state with
      table := table, gates := gates, fresh := fresh
      calls := setAt state.calls thread (⟨key, gate, .waiting⟩ :: state.calls thread) } where
  nested := setAt_forall (P := fun _ => Nested)
    (loading_of_free free (coherent.nested thread)) (fun other _ => coherent.nested other)
  finite := busy_setAt_finite coherent.finite thread _
  gated := admits.gated coherent thread .waiting
  fresh := fun _ _ => admits.lt_fresh coherent
  apart := fun _ _ _ => admits.apart coherent
  users := fun _ _ => admits.users coherent thread .waiting
  holders := by
    apply coherent.fits_setAt admits.holder
    intro place
    simp [countP_isInside_cons, Phase.isInside]

theorem Coherent.holder_fresh (coherent : Coherent state) :
    (state.gates state.fresh).holder = none := by
  cases held : (state.gates state.fresh).holder with
  | none => rfl
  | some owner =>
    have fits := coherent.holders state.fresh owner
    unfold Gate.Fits at fits
    rw [held, if_pos rfl] at fits
    have inside : 0 < (state.calls owner).countP (Call.isInside state.fresh) := by omega
    obtain ⟨call, present, here⟩ := List.countP_pos_iff.mp inside
    simp only [Call.isInside, Bool.and_eq_true, decide_eq_true_eq] at here
    have bound := coherent.fresh call.key call.gate (coherent.gated owner call present)
    omega

theorem Coherent.tally_eq_zero (coherent : Coherent state) (unknown : state.table.lookup key = none) :
    tally state.calls key = 0 := by
  by_contra counted
  obtain ⟨owner, call, present, on⟩ :=
    (tally_pos_iff coherent.finite key).mp (Nat.pos_of_ne_zero counted)
  have row := coherent.gated owner call present
  rw [on, unknown] at row
  cases row

theorem Coherent.admits_present (coherent : Coherent state)
    (row : state.table.lookup key = some gate) :
    Admits state key gate state.table
      (setAt state.gates gate { state.gates gate with users := (state.gates gate).users + 1 })
      state.fresh where
  rows := by
    intro name
    by_cases same : name = key
    · rw [if_pos same, same, row]
    · rw [if_neg same]
  before := fun old other => (Option.some.inj (row.symm.trans other)).symm
  own := fun name other => coherent.apart name key gate other row
  room := ⟨coherent.fresh key gate row, le_rfl⟩
  holder := holder_setAt_users state.gates gate _
  entered := by
    rw [setAt_self]
    exact congrArg (· + 1) (coherent.users key gate row).1
  others := fun place away => by rw [setAt_of_ne _ away]

theorem Coherent.admits_fresh (coherent : Coherent state) (unknown : state.table.lookup key = none)
    (gates : Nat → Gate) (cleared : gates = setAt state.gates state.fresh ⟨none, 0⟩) :
    Admits state key state.fresh ((key, state.fresh) :: state.table)
      (setAt gates state.fresh { gates state.fresh with users := (gates state.fresh).users + 1 })
      (state.fresh + 1) where
  rows := fun name => lookup_cons_eq_ite name key state.fresh state.table
  before := by
    intro old other
    rw [unknown] at other
    cases other
  own := fun name other => absurd (coherent.fresh name state.fresh other) (lt_irrefl _)
  room := ⟨Nat.lt_succ_self _, Nat.le_succ _⟩
  holder := by
    intro place
    rw [holder_setAt_users, cleared]
    by_cases same : place = state.fresh
    · rw [same, coherent.holder_fresh, setAt_self]
    · rw [setAt_of_ne _ same]
  entered := by
    rw [setAt_self, cleared, setAt_self, coherent.tally_eq_zero unknown]
  others := by
    intro place away
    rw [setAt_of_ne _ away, cleared, setAt_of_ne _ away]

theorem Coherent.register (coherent : Coherent state) (free : isFree (state.calls thread) = true)
    (key : Int) : Coherent (state.register thread key) := by
  unfold State.register gateOf
  cases row : state.table.lookup key with
  | some gate => exact coherent.push free (coherent.admits_present row)
  | none => exact coherent.push free (coherent.admits_fresh row _ rfl)

/-- The gate goes exactly when no call on the key is left to know it. -/
theorem Coherent.lookup_finishCall (coherent : Coherent state) {result : Except ε τ}
    (top : state.calls thread = ⟨key, gate, .leaving result⟩ :: outer) (name : Int) :
    (state.finishCall thread ⟨key, gate, .leaving result⟩ outer result).table.lookup name =
      if name = key ∧ tally (setAt state.calls thread outer) key = 0 then none
      else state.table.lookup name := by
  have row := coherent.lookup_top top
  have counted := coherent.users key gate row
  have left := coherent.tally_pop top key
  rw [if_pos rfl] at left
  change (if (state.gates gate).users = 1 ∧ state.table.lookup key = some gate then
    state.table.filter fun row => row.1 ≠ key else state.table).lookup name = _
  by_cases last : tally (setAt state.calls thread outer) key = 0
  · have one : (state.gates gate).users = 1 := by omega
    simp only [one, row, and_self, ↓reduceIte, lookup_filter_ne, last, and_true]
  · have more : (state.gates gate).users ≠ 1 := by omega
    simp only [more, false_and, ↓reduceIte, last, and_false]

theorem Coherent.users_finishCall (coherent : Coherent state) {result : Except ε τ}
    (top : state.calls thread = ⟨key, gate, .leaving result⟩ :: outer) {name : Int} {place : Nat}
    (kept : ¬ (name = key ∧ tally (setAt state.calls thread outer) key = 0))
    (listed : state.table.lookup name = some place) :
    (setAt state.gates gate { state.gates gate with users := (state.gates gate).users - 1 } place).users =
        tally (setAt state.calls thread outer) name ∧
      0 < tally (setAt state.calls thread outer) name := by
  have row := coherent.lookup_top top
  have counts := coherent.users name place listed
  have left := coherent.tally_pop top name
  by_cases same : name = key
  · have here : place = gate := Option.some.inj (listed.symm.trans (same ▸ row))
    rw [here, setAt_self]
    rw [if_pos same.symm] at left
    rw [here] at counts
    have more : tally (setAt state.calls thread outer) name ≠ 0 := by
      intro none
      exact kept ⟨same, same ▸ none⟩
    exact ⟨by simp only; omega, Nat.pos_of_ne_zero more⟩
  · have away : place ≠ gate := fun equal => same (coherent.apart name key gate (equal ▸ listed) row)
    rw [setAt_of_ne _ away]
    rw [if_neg (Ne.symm same)] at left
    omega

theorem Coherent.leave (coherent : Coherent state) {result : Except ε τ}
    (top : state.calls thread = ⟨key, gate, .leaving result⟩ :: outer) :
    Coherent (state.finishCall thread ⟨key, gate, .leaving result⟩ outer result) := by
  have rows := coherent.lookup_finishCall top
  have finite := busy_setAt_finite coherent.finite thread outer
  have rest : ∀ call ∈ outer, call ∈ state.calls thread := by
    intro call present
    rw [top]
    exact List.mem_cons_of_mem _ present
  constructor
  · exact setAt_forall (P := fun _ => Nested)
      (fun call present => coherent.nested thread call (by rw [top]; exact List.mem_of_mem_tail present))
      (fun other _ => coherent.nested other)
  · exact finite
  · have known : ∀ other, ∀ call ∈ setAt state.calls thread outer other,
        state.table.lookup call.key = some call.gate :=
      setAt_forall (P := fun _ (calls : List (Call τ ε)) =>
        ∀ call ∈ calls, state.table.lookup call.key = some call.gate)
        (fun call present => coherent.gated thread call (rest call present))
        (fun other _ => coherent.gated other)
    intro other call present
    rw [rows, if_neg]
    · exact known other call present
    · rintro ⟨on, none⟩
      have some := (tally_pos_iff finite key).mpr ⟨other, call, present, on⟩
      omega
  · intro name place other
    rw [rows] at other
    split_ifs at other
    exact coherent.fresh name place other
  · intro name other place first second
    rw [rows] at first second
    split_ifs at first second
    exact coherent.apart name other place first second
  · intro name place other
    rw [rows] at other
    split_ifs at other with gone
    exact coherent.users_finishCall top gone other
  · apply coherent.fits_setAt (holder_setAt_users state.gates gate _)
    intro place
    rw [top, countP_isInside_cons]
    simp [Phase.isInside]

/-! ### Runs -/

theorem Coherent.taken (coherent : Coherent state) {step : Step τ ε} {next : State τ ε}
    (taken : Taken state thread step next) : Coherent next := by
  cases taken with
  | get key free => exact coherent.withCache _ _
  | put key tile free => exact coherent.withCache _ _
  | clear free => exact coherent.withCache _ _
  | hit key tile free present => exact coherent.withCache _ _
  | register key free absent => exact coherent.register free key
  | enter key gate outer top unheld => exact coherent.enter top unheld
  | found key gate outer tile top present => exact (coherent.withCache _ _).advance top rfl
  | missed key gate outer top absent => exact (coherent.withCache _ _).advance top rfl
  | start key gate outer top => exact coherent.advance top rfl
  | loaded key gate outer tile top => exact coherent.advance top rfl
  | failed key gate outer failure top => exact coherent.advance top rfl
  | store key gate outer tile top => exact (coherent.withCache _ _).advance top rfl
  | release key gate outer result top => exact coherent.release top
  | leave key gate outer result top => exact coherent.leave top

theorem Ran.coherent {first : State τ ε} {steps : List (Thread × Step τ ε)}
    (ran : Ran first steps state) (initial : Coherent first) : Coherent state := by
  induction ran with
  | nil => exact initial
  | snoc ran stepped ih => exact ih.taken (taken_of_step stepped)

end State

end Elevation.Cache.Loading
