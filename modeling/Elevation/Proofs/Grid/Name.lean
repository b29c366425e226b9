import Elevation.Grid
import Mathlib

/-!
Names of cells. A name is made of hemisphere letters and digits, and no two cells share one; on the
globe no two cells share a key either.
-/

namespace Elevation

namespace Decimal

theorem ofDigitChars_padded (places n : Nat) : Nat.ofDigitChars 10 (padded places n) 0 = n := by
  simp only [padded, digitChars]
  rw [Nat.ofDigitChars_append, Nat.ofDigitChars_replicate_zero, Nat.mul_zero,
    Nat.ofDigitChars_ten_toDigits]

theorem padded_injective {places m n : Nat} (same : padded places m = padded places n) : m = n := by
  rw [← ofDigitChars_padded places m, same, ofDigitChars_padded]

theorem isDigit_of_mem_padded {places n : Nat} {c : Char} (present : c ∈ padded places n) :
    c.isDigit = true := by
  rcases List.mem_append.mp present with zero | digit
  · rw [List.eq_of_mem_replicate zero]
    rfl
  · exact Nat.isDigit_of_mem_toDigits (Nat.succ_pos 9) le_rfl digit

end Decimal

namespace Cell

theorem notMem_degrees {places : Nat} {n : Int} {c : Char} (letter : c.isDigit = false) :
    c ∉ degrees places n := by
  intro present
  rw [Decimal.isDigit_of_mem_padded present] at letter
  cases letter

theorem eq_of_degrees {places : Nat} {m n : Int} {positive negative : Char}
    (apart : positive ≠ negative)
    (letters : (if 0 ≤ m then positive else negative) = if 0 ≤ n then positive else negative)
    (digits : degrees places m = degrees places n) : m = n := by
  have sizes : m.natAbs = n.natAbs := Decimal.padded_injective digits
  split_ifs at letters with first second second
  · omega
  · exact absurd letters apart
  · exact absurd letters.symm apart
  · omega

theorem nameChars_injective : Function.Injective nameChars := by
  intro cell other same
  unfold nameChars at same
  rw [List.cons_append, List.cons_append, List.cons.injEq, List.append_cons_inj_of_notMem] at same
  · obtain ⟨hemisphere, lat, side, lon⟩ := same
    have lats := eq_of_degrees (by decide) hemisphere lat
    have lons := eq_of_degrees (by decide) side lon
    cases cell
    cases other
    simp_all
  · exact notMem_degrees (by split_ifs <;> rfl)
  · exact notMem_degrees (by split_ifs <;> rfl)

theorem name_injective : Function.Injective name := by
  intro cell other same
  exact nameChars_injective (String.ofList_injective same)

theorem slash_notMem_nameChars (cell : Cell) : '/' ∉ cell.nameChars := by
  simp only [nameChars, List.cons_append, List.mem_cons, List.mem_append, not_or]
  refine ⟨?_, notMem_degrees rfl, ?_, notMem_degrees rfl⟩ <;> split_ifs <;> decide

/-- Cells near the globe have keys of their own. -/
theorem key_injective {cell other : Cell} (lon : -181 ≤ cell.lon ∧ cell.lon ≤ 180)
    (lon' : -181 ≤ other.lon ∧ other.lon ≤ 180) (same : cell.key = other.key) : cell = other := by
  cases cell
  cases other
  simp only [key, mk.injEq] at *
  omega

end Cell

theorem takeWhile_slash {name : List Char} (free : '/' ∉ name) (front : List Char) :
    (front ++ '/' :: name).reverse.takeWhile (· ≠ '/') = name.reverse := by
  have all : ∀ c ∈ name.reverse, decide (c ≠ '/') = true := by
    intro c present
    exact decide_eq_true fun slash => free (slash ▸ List.mem_reverse.mp present)
  rw [List.reverse_append, List.reverse_cons, List.append_assoc, List.takeWhile_append_of_pos all]
  simp

theorem append_slash_inj {front front' : String} {cell cell' : Cell}
    (same : front ++ "/" ++ cell.name = front' ++ "/" ++ cell'.name) : front = front' ∧ cell = cell' := by
  have chars : front.toList ++ '/' :: cell.nameChars = front'.toList ++ '/' :: cell'.nameChars := by
    simpa [Cell.name] using congrArg String.toList same
  have names := congrArg (fun chars : List Char => chars.reverse.takeWhile (· ≠ '/')) chars
  simp only [takeWhile_slash (Cell.slash_notMem_nameChars _)] at names
  have cells := Cell.nameChars_injective (List.reverse_injective names)
  subst cells
  exact ⟨String.toList_injective (List.append_cancel_right chars), rfl⟩

end Elevation
