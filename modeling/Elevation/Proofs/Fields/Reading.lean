import Elevation.Fields.Checked
import Elevation.Proofs.Outcome

/-!
Records read from structured data. A record has been read if each part of it has been; its issues are
those of its parts, one after the other, each found below the name of its part. Whatever is refused has
an issue, so a value has been read exactly if there is none.
-/

namespace Elevation

namespace Fields

variable {α β : Type} {members : Members} {name : String}

/-! ### What was read -/

theorem ap_eq_ok {read : Checked (α → β)} {argument : Checked α} {y : β} :
    ap read argument = .ok y ↔ ∃ f x, read = .ok f ∧ argument = .ok x ∧ f x = y := by
  cases read <;> cases argument <;> simp [ap]

theorem closed_eq_ok [Coercion] {known : List String} {checked : Checked α} {x : α} :
    closed members known checked = .ok x ↔ checked = .ok x ∧ surplus members known = [] := by
  unfold closed
  split <;> simp_all

theorem below_eq_ok {checked : Checked α} {x : α} : below name checked = .ok x ↔ checked = .ok x :=
  mapError_eq_ok

/-! ### What was refused -/

def issuesOf : Checked α → List Issue
  | .ok _ => []
  | .error issues => issues

/-- What is refused has an issue. -/
def Honest (checked : Checked α) : Prop := checked ≠ .error []

theorem honest_ok (x : α) : Honest (.ok x : Checked α) := by simp [Honest]

theorem honest_error {issues : List Issue} : Honest (.error issues : Checked α) ↔ issues ≠ [] := by
  simp [Honest]

theorem exists_ok_iff {checked : Checked α} (honest : Honest checked) :
    (∃ x, checked = .ok x) ↔ issuesOf checked = [] := by
  cases checked with
  | error issues => simpa [issuesOf] using honest_error.mp honest
  | ok x => simp [issuesOf]

theorem issuesOf_ap (f : Checked (α → β)) (x : Checked α) :
    issuesOf (ap f x) = issuesOf f ++ issuesOf x := by
  cases f <;> cases x <;> simp [ap, issuesOf]

theorem Honest.ap {f : Checked (α → β)} {x : Checked α} (first : Honest f) (second : Honest x) :
    Honest (ap f x) := by
  cases f <;> cases x <;> simp_all [Honest, Fields.ap]

theorem Honest.below {checked : Checked α} (honest : Honest checked) (name : String) :
    Honest (below name checked) := by
  cases checked <;> simp_all [Honest, Fields.below, Except.mapError]

def Issue.under (name : String) (issue : Issue) : Issue := { issue with path := name :: issue.path }

theorem issuesOf_below (name : String) (checked : Checked α) :
    issuesOf (below name checked) = (issuesOf checked).map (Issue.under name) := by
  cases checked <;> rfl

theorem closed_of_surplus [Coercion] {known : List String} (none : surplus members known = []) (checked : Checked α) :
    closed members known checked = checked := by
  cases checked <;> simp [closed, none]

theorem Honest.bind {checked : Checked α} {next : α → Checked β} (first : Honest checked)
    (second : ∀ x, Honest (next x)) : Honest (checked.bind next) := by
  cases checked with
  | error issues => exact honest_error.mpr (honest_error.mp first)
  | ok x => exact second x

/-! ### Values behind bounds -/

section

variable [Coercion] {value : Json} {x : Float}

theorem positive_eq_ok [Coercion.Lawful] : positive float value = .ok x ↔
    float value = .ok x ∧ Scalar.lt (Scalar.ofInt 0) x = true := by
  unfold positive
  cases float value with
  | error issues => simp [Except.bind]
  | ok y =>
    rw [Except.bind, Coercion.Lawful.above_eq_ok, Except.ok.injEq]
    exact ⟨fun ⟨above, same⟩ => ⟨same, same ▸ above⟩, fun ⟨same, above⟩ => ⟨same ▸ above, same⟩⟩

theorem honest_positive [Coercion.Lawful] (value : Json) : Honest (positive float value) :=
  Honest.bind (Coercion.Lawful.float_honest value) fun x => Coercion.Lawful.above_honest 0 x

end

end Fields

end Elevation
