import Mathlib

/-!
Looking things up in lists of keys and values. The first row of a key counts.
-/

namespace Elevation

variable {κ β : Type} [BEq κ] [LawfulBEq κ] [DecidableEq κ]

theorem lookup_cons_eq_ite (key name : κ) (value : β) (rows : List (κ × β)) :
    ((name, value) :: rows).lookup key = if key = name then some value else rows.lookup key := by
  rw [List.lookup_cons]
  by_cases same : key = name
  · simp [same]
  · rw [beq_false_of_ne same, if_neg same]

theorem lookup_filter (p : κ → Bool) (key : κ) (rows : List (κ × β)) :
    (rows.filter fun row => p row.1).lookup key = if p key then rows.lookup key else none := by
  induction rows with
  | nil => simp
  | cons row rest ih =>
    obtain ⟨name, value⟩ := row
    by_cases kept : p name = true
    · rw [List.filter_cons_of_pos (by exact kept), lookup_cons_eq_ite, lookup_cons_eq_ite, ih]
      by_cases same : key = name
      · rw [if_pos same, if_pos same, same, if_pos kept]
      · rw [if_neg same, if_neg same]
    · rw [List.filter_cons_of_neg (by exact kept), lookup_cons_eq_ite, ih]
      by_cases same : key = name
      · rw [same, if_neg kept, if_neg kept]
      · rw [if_neg same]

theorem lookup_filter_ne (key other : κ) (rows : List (κ × β)) :
    (rows.filter fun row => row.1 ≠ key).lookup other =
      if other = key then none else rows.lookup other := by
  rw [lookup_filter (fun name => decide (name ≠ key)) other rows]
  simp

theorem lookup_eq_none_iff_keys (key : κ) (rows : List (κ × β)) :
    rows.lookup key = none ↔ key ∉ rows.map Prod.fst := by
  induction rows with
  | nil => simp
  | cons row rest ih =>
    obtain ⟨name, value⟩ := row
    rw [lookup_cons_eq_ite]
    by_cases same : key = name
    · simp [same]
    · simpa [same] using ih

theorem lookup_filterMap {γ : Type} {key : κ} {value : β} {rows : List (κ × β)} (f : β → Option γ)
    (distinct : (rows.map Prod.fst).Nodup) (listed : (key, value) ∈ rows) :
    (rows.filterMap fun row => (f row.2).map (row.1, ·)).lookup key = f value := by
  induction rows with
  | nil => cases listed
  | cons row rest ih =>
    obtain ⟨fresh, distinct'⟩ := List.nodup_cons.mp distinct
    rcases List.mem_cons.mp listed with rfl | later
    · have absent : (rest.filterMap fun row => (f row.2).map (row.1, ·)).lookup key = none := by
        rw [lookup_eq_none_iff_keys]
        intro present
        obtain ⟨_, kept, rfl⟩ := List.mem_map.mp present
        obtain ⟨other, source, made⟩ := List.mem_filterMap.mp kept
        obtain ⟨_, _, rfl⟩ := Option.map_eq_some_iff.mp made
        exact fresh (List.mem_map.mpr ⟨other, source, rfl⟩)
      cases changed : f value with
      | none => simpa [changed] using absent
      | some new => simp [changed]
    · have other : key ≠ row.1 := by
        rintro rfl
        exact fresh (List.mem_map.mpr ⟨(row.1, value), later, rfl⟩)
      rw [← ih distinct' later]
      cases changed : f row.2 with
      | none => simp [changed]
      | some new => simp [changed, lookup_cons_eq_ite, other]

theorem lookup_eq_some_iff_mem {key : κ} {value : β} {rows : List (κ × β)}
    (distinct : (rows.map Prod.fst).Nodup) : rows.lookup key = some value ↔ (key, value) ∈ rows := by
  induction rows with
  | nil => simp
  | cons row rest ih =>
    obtain ⟨name, held⟩ := row
    obtain ⟨fresh, distinct'⟩ := List.nodup_cons.mp distinct
    rw [lookup_cons_eq_ite]
    by_cases same : key = name
    · have unlisted : (name, value) ∉ rest :=
        fun listed => fresh (List.mem_map.mpr ⟨(name, value), listed, rfl⟩)
      simp [same, unlisted, eq_comm]
    · simp [same, ih distinct']

end Elevation
