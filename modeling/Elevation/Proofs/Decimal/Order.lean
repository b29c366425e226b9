import Elevation.Proofs.Decimal.Whole

/-!
The order of doubles. A double has a rank by its sign, its exponent and its significand, in this
order; doubles compare as their ranks do, and what has no rank is no number.
-/

namespace Elevation.Decimal

open Float.Model (UnpackedFloat)

def rank? : UnpackedFloat → Option (Int ×ₗ Int ×ₗ Int)
  | .notANumber => none
  | .infinity .negative => some (toLex (-2, toLex (0, 0)))
  | .finite .negative significand exponent _ => some (toLex (-1, toLex (-exponent, -significand)))
  | .zero _ => some (toLex (0, toLex (0, 0)))
  | .finite .positive significand exponent _ => some (toLex (1, toLex (exponent, significand)))
  | .infinity .positive => some (toLex (2, toLex (0, 0)))

theorem cmp_toLex {α β : Type} [LinearOrder α] [LinearOrder β] (a b : α) (p q : β) :
    cmp (toLex (a, p)) (toLex (b, q)) = (cmp a b).then (cmp p q) := by
  rcases lt_trichotomy a b with less | rfl | more
  · rw [(cmp_eq_lt_iff _ _).mpr less, (cmp_eq_lt_iff _ _).mpr (Prod.Lex.toLex_lt_toLex.mpr (Or.inl less))]
    rfl
  · rw [cmp_self_eq_eq]
    simp [cmp, cmpUsing, Prod.Lex.toLex_lt_toLex]
  · rw [(cmp_eq_gt_iff _ _).mpr more, (cmp_eq_gt_iff _ _).mpr (Prod.Lex.toLex_lt_toLex.mpr (Or.inl more))]
    rfl

theorem cmp_neg (a b : Int) : cmp (-a) (-b) = (cmp a b).swap := by
  rw [cmp_swap]
  simp [cmp, cmpUsing]

theorem cmp_digits (sign e e' : Int) (m m' : Nat) :
    cmp (toLex (sign, toLex (e, (m : Int)))) (toLex (sign, toLex (e', (m' : Int)))) =
      (compare e e').then (compare m m') := by
  have digits : cmp (m : Int) m' = compare m m' := by
    simp [cmp, cmpUsing, Nat.compare_eq_ite_lt]
  rw [cmp_toLex, cmp_toLex, cmp_self_eq_eq, digits, cmp_eq_compare]
  rfl

theorem cmp_neg_digits (sign e e' : Int) (m m' : Nat) :
    cmp (toLex (sign, toLex (-e, -(m : Int)))) (toLex (sign, toLex (-e', -(m' : Int)))) =
      ((compare e e').then (compare m m')).swap := by
  rw [← cmp_digits sign, cmp_toLex, cmp_toLex, cmp_toLex, cmp_toLex, cmp_self_eq_eq, cmp_neg, cmp_neg,
    ← Ordering.swap_then]
  rfl

/-- Numbers compare as their ranks do; the sign decides unless both are finite and have the same. -/
theorem compare_eq_cmp (x y : UnpackedFloat) :
    x.compare y = (rank? x).bind fun p => (rank? y).map fun q => cmp p q := by
  rcases x with (_ | _) | _ | _ | ⟨_ | _, m, e, _⟩ <;>
    rcases y with (_ | _) | _ | _ | ⟨_ | _, m', e', _⟩
  all_goals first
    | rfl
    | exact congrArg some (cmp_digits 1 e e' m m').symm
    | exact congrArg some (cmp_neg_digits (-1) e e' m m').symm

def rankOf? (x : Float) : Option (Int ×ₗ Int ×ₗ Int) := rank? x.toModel.unpack

variable {x y : Float} {p q : Int ×ₗ Int ×ₗ Int}

theorem lt_iff_compare : x < y ↔ x.toModel.unpack.compare y.toModel.unpack = some .lt := by
  have compared : x < y ↔ (x.toModel.unpack.compare y.toModel.unpack == some Ordering.lt) = true :=
    decide_eq_true_iff
  rw [compared, beq_iff_eq]

theorem le_iff_compare : x ≤ y ↔ (x.toModel.unpack.compare y.toModel.unpack).any (·.isLE) = true :=
  decide_eq_true_iff

theorem lt_iff_rank : x < y ↔ ∃ p q, rankOf? x = some p ∧ rankOf? y = some q ∧ p < q := by
  rw [lt_iff_compare, compare_eq_cmp]
  simp only [rankOf?, Option.bind_eq_some_iff, Option.map_eq_some_iff, cmp_eq_lt_iff]
  constructor
  · rintro ⟨p, here, q, there, less⟩
    exact ⟨p, q, here, there, less⟩
  · rintro ⟨p, q, here, there, less⟩
    exact ⟨p, here, q, there, less⟩

theorem le_iff_rank : x ≤ y ↔ ∃ p q, rankOf? x = some p ∧ rankOf? y = some q ∧ p ≤ q := by
  rw [le_iff_compare, compare_eq_cmp, ← rankOf?, ← rankOf?]
  cases rankOf? x with
  | none => simp
  | some p =>
    cases rankOf? y with
    | none => simp
    | some q => simp [cmp_eq_compare, Ordering.isLE_iff_ne_gt, compare_le_iff_le]

theorem rankOf?_eq_none_iff : rankOf? x = none ↔ x.isNaN = true := by
  change rank? x.toModel.unpack = none ↔ x.toModel.unpack.isNaN = true
  rcases x.toModel.unpack with (_ | _) | _ | _ | ⟨_ | _, m, e, _⟩ <;> simp [rank?, UnpackedFloat.isNaN]

theorem exists_rank (number : x.isNaN = false) : ∃ p, rankOf? x = some p := by
  apply Option.ne_none_iff_exists'.mp
  rw [Ne, rankOf?_eq_none_iff, number]
  decide

theorem lt_of_not_le (number : x.isNaN = false) (number' : y.isNaN = false) (above : ¬ y ≤ x) : x < y := by
  obtain ⟨p, here⟩ := exists_rank number
  obtain ⟨q, there⟩ := exists_rank number'
  refine lt_iff_rank.mpr ⟨p, q, here, there, not_le.mp fun low => above ?_⟩
  exact le_iff_rank.mpr ⟨q, p, there, here, low⟩

theorem lt_of_le_of_lt {z : Float} (low : x ≤ y) (high : y < z) : x < z := by
  obtain ⟨p, q, here, there, below⟩ := le_iff_rank.mp low
  obtain ⟨q', r, there', beyond, above⟩ := lt_iff_rank.mp high
  cases there.symm.trans there'
  exact lt_iff_rank.mpr ⟨p, r, here, beyond, below.trans_lt above⟩

theorem not_le_of_lt (less : x < y) : ¬ y ≤ x := by
  intro high
  obtain ⟨p, q, here, there, below⟩ := lt_iff_rank.mp (lt_of_le_of_lt high less)
  cases here.symm.trans there
  exact lt_irrefl p below

theorem not_le_of_isNaN (none : x.isNaN = true) : ¬ x ≤ y := by
  intro low
  obtain ⟨p, q, here, -, -⟩ := le_iff_rank.mp low
  rw [rankOf?_eq_none_iff.mpr none] at here
  cases here

theorem not_lt_of_isNaN (none : y.isNaN = true) : ¬ x < y := by
  intro less
  obtain ⟨p, q, -, there, -⟩ := lt_iff_rank.mp less
  rw [rankOf?_eq_none_iff.mpr none] at there
  cases there

end Elevation.Decimal
