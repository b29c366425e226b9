import Mathlib

/-!
Outcomes that succeed. A changed result comes from a result that was there before the change, and so
does a failure. Of outcomes one after the other, all succeed or the first that fails decides.
-/

namespace Elevation

variable {ε ε' α β γ : Type} {failure : ε}

theorem eq_ok_of_toOption {outcome : Except ε α} {x : α} (shown : outcome.toOption = some x) :
    outcome = .ok x := by
  cases outcome with
  | error failure => cases shown
  | ok y => exact congrArg Except.ok (Option.some.inj shown)

theorem map_eq_ok {f : α → β} {outcome : Except ε α} {y : β} :
    outcome.map f = .ok y ↔ ∃ x, outcome = .ok x ∧ f x = y := by
  cases outcome with
  | error failure => simp [Except.map]
  | ok x => simp [Except.map]

theorem map_eq_error {f : α → β} {outcome : Except ε α} :
    outcome.map f = .error failure ↔ outcome = .error failure := by
  cases outcome with
  | error reason => simp [Except.map]
  | ok x => simp [Except.map]

theorem mapError_eq_ok {f : ε → ε'} {outcome : Except ε α} {x : α} :
    outcome.mapError f = .ok x ↔ outcome = .ok x := by
  cases outcome with
  | error failure => simp [Except.mapError]
  | ok x => simp [Except.mapError]

theorem mapError_eq_error {f : ε → ε'} {outcome : Except ε α} {reason : ε'} :
    outcome.mapError f = .error reason ↔ ∃ failure, outcome = .error failure ∧ f failure = reason := by
  cases outcome with
  | error failure => simp [Except.mapError]
  | ok x => simp [Except.mapError]

theorem ite_eq_error {refused : Prop} [Decidable refused] {reason : ε} {rest : Except ε α} :
    (if refused then .error reason else rest) = .error failure ↔
      refused ∧ reason = failure ∨ ¬ refused ∧ rest = .error failure := by
  by_cases refused <;> simp [*]

theorem ite_eq_ok {refused : Prop} [Decidable refused] {reason : ε} {rest : Except ε α} {x : α} :
    (if refused then .error reason else rest) = .ok x ↔ ¬ refused ∧ rest = .ok x := by
  by_cases refused <;> simp [*]

/-! ### One after the other -/

variable {f : α → Except ε β} {xs : List α} {ys : List β}

theorem mapM_cons_eq_ok {x : α} :
    (x :: xs).mapM f = .ok ys ↔ ∃ y zs, f x = .ok y ∧ xs.mapM f = .ok zs ∧ ys = y :: zs := by
  rw [List.mapM_cons]
  cases f x with
  | error failure => simp [bind, Except.bind]
  | ok y =>
    cases xs.mapM f with
    | error failure => simp [bind, Except.bind]
    | ok zs => simp [bind, Except.bind, pure, Except.pure, eq_comm]

theorem mapM_eq_ok : xs.mapM f = .ok ys ↔ List.Forall₂ (fun x y => f x = .ok y) xs ys := by
  induction xs generalizing ys with
  | nil =>
    rw [List.forall₂_nil_left_iff]
    exact ⟨fun same => (Except.ok.inj same).symm, fun none => none ▸ rfl⟩
  | cons x rest ih => simp only [mapM_cons_eq_ok, List.forall₂_cons_left_iff, ih]

theorem exists_mapM_iff : (∃ ys, xs.mapM f = .ok ys) ↔ ∀ x ∈ xs, ∃ y, f x = .ok y := by
  induction xs with
  | nil => exact iff_of_true ⟨[], rfl⟩ (by simp)
  | cons x rest ih =>
    simp only [mapM_cons_eq_ok, List.forall_mem_cons, ← ih]
    constructor
    · rintro ⟨_, y, zs, first, others, rfl⟩
      exact ⟨⟨y, first⟩, zs, others⟩
    · rintro ⟨⟨y, first⟩, zs, others⟩
      exact ⟨_, y, zs, first, others, rfl⟩

theorem mapM_append_of_error {x : α} (before : ∀ y ∈ xs, ∃ z, f y = .ok z) (failed : f x = .error failure) :
    (xs ++ [x]).mapM f = .error failure := by
  induction xs with
  | nil =>
    rw [List.nil_append, List.mapM_cons, failed]
    rfl
  | cons y rest ih =>
    obtain ⟨z, first⟩ := before y List.mem_cons_self
    rw [List.cons_append, List.mapM_cons, first, ih fun y later => before y (List.mem_cons_of_mem _ later)]
    rfl

theorem mapM_map (f : α → Except ε β) (g : β → γ) (xs : List α) :
    xs.mapM (fun x => (f x).map g) = (xs.mapM f).map (List.map g) := by
  induction xs with
  | nil => rfl
  | cons x rest ih =>
    rw [List.mapM_cons, List.mapM_cons, ih]
    cases f x with
    | error failure => rfl
    | ok y => cases rest.mapM f <;> rfl

end Elevation
