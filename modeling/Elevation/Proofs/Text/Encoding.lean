import Elevation.Text.Utf8
import Mathlib

/-!
Text that is written as UTF-8 is read back. Each character is read off the front of the bytes that
follow it, whatever those are; the bounds on second bytes hold for what a character is written as.
-/

namespace Elevation.Text

/-! ### Classes of bytes by their numbers -/

theorem utf8Length?_eq (byte : UInt8) :
    utf8Length? byte =
      if byte.toNat < 128 then some 1
      else if byte.toNat < 194 then none
      else if byte.toNat < 224 then some 2
      else if byte.toNat < 240 then some 3
      else if byte.toNat < 245 then some 4
      else none := by
  simp only [utf8Length?, UInt8.lt_iff_toNat_lt]
  rfl

theorem isContinuation_iff (byte : UInt8) :
    isContinuation byte = true ↔ 128 ≤ byte.toNat ∧ byte.toNat < 192 := by
  simp only [isContinuation, Bool.and_eq_true, decide_eq_true_eq, UInt8.lt_iff_toNat_lt,
    UInt8.le_iff_toNat_le]
  exact Iff.rfl

/-- A second byte continues, and keeps out overlong forms, surrogates and what is beyond the last
character. -/
theorem utf8SecondAllowed_iff (first second : UInt8) :
    utf8SecondAllowed first second = true ↔
      (128 ≤ second.toNat ∧ second.toNat < 192) ∧ (first.toNat = 224 → 160 ≤ second.toNat) ∧
        (first.toNat = 237 → second.toNat < 160) ∧ (first.toNat = 240 → 144 ≤ second.toNat) ∧
        (first.toNat = 244 → second.toNat < 144) := by
  have number (byte : UInt8) : first = byte ↔ first.toNat = byte.toNat := UInt8.toNat_inj.symm
  unfold utf8SecondAllowed
  simp only [number, UInt8.reduceToNat, apply_ite (· = true), Bool.and_eq_true, decide_eq_true_eq,
    UInt8.lt_iff_toNat_lt, UInt8.le_iff_toNat_le]
  split_ifs <;> omega

theorem toNat_ofNat_of_lt {n : Nat} (small : n < 256) : (UInt8.ofNat n).toNat = n :=
  Nat.mod_eq_of_lt small

/-! ### One character -/

section

variable {first second third fourth : UInt8}

theorem utf8Char_one (lead : first.toNat < 128) (position : Nat) (rest : List UInt8) :
    utf8Char position first rest = .ok (Char.ofNat first.toNat, rest) := by
  have length : utf8Length? first = some 1 := by rw [utf8Length?_eq, if_pos lead]
  simp only [utf8Char, length]

theorem utf8Char_two (lead : 194 ≤ first.toNat ∧ first.toNat < 224)
    (allowed : utf8SecondAllowed first second = true) (position : Nat) (rest : List UInt8) :
    utf8Char position first (second :: rest) =
      .ok (Char.ofNat (first.toNat % 32 * 64 + second.toNat % 64), rest) := by
  have length : utf8Length? first = some 2 := by
    rw [utf8Length?_eq]
    split_ifs <;> first | rfl | omega
  simp only [utf8Char, length, allowed, ↓reduceIte]

theorem utf8Char_three (lead : 224 ≤ first.toNat ∧ first.toNat < 240)
    (allowed : utf8SecondAllowed first second = true) (continues : isContinuation third = true)
    (position : Nat) (rest : List UInt8) :
    utf8Char position first (second :: third :: rest) =
      .ok (Char.ofNat ((first.toNat % 16 * 64 + second.toNat % 64) * 64 + third.toNat % 64), rest) := by
  have length : utf8Length? first = some 3 := by
    rw [utf8Length?_eq]
    split_ifs <;> first | rfl | omega
  simp only [utf8Char, length, allowed, continues, Bool.not_true, Bool.false_eq_true, ↓reduceIte]

theorem utf8Char_four (lead : 240 ≤ first.toNat ∧ first.toNat < 245)
    (allowed : utf8SecondAllowed first second = true) (continues : isContinuation third = true)
    (continues' : isContinuation fourth = true) (position : Nat) (rest : List UInt8) :
    utf8Char position first (second :: third :: fourth :: rest) =
      .ok (Char.ofNat (((first.toNat % 8 * 64 + second.toNat % 64) * 64 + third.toNat % 64) * 64 +
        fourth.toNat % 64), rest) := by
  have length : utf8Length? first = some 4 := by
    rw [utf8Length?_eq]
    split_ifs <;> first | rfl | omega
  simp only [utf8Char, length, allowed, continues, continues', Bool.not_true, Bool.false_eq_true,
    ↓reduceIte]

end

theorem isContinuation_low (n : Nat) :
    isContinuation (UInt8.ofNat (n % 64 + 128)) = true ∧
      (UInt8.ofNat (n % 64 + 128)).toNat % 64 = n % 64 := by
  have number := @toNat_ofNat_of_lt (n % 64 + 128) (by omega)
  rw [isContinuation_iff, number]
  omega

/-- A character is read off the bytes that it is written as, whatever stands behind them. -/
theorem exists_utf8Char (c : Char) (rest : List UInt8) :
    ∃ first tail, String.utf8EncodeChar c = first :: tail ∧
      ∀ position, utf8Char position first (tail ++ rest) = .ok (c, rest) := by
  -- There are no characters among the surrogates, whose second bytes are refused.
  have valid : c.toNat < 55296 ∨ 57343 < c.toNat ∧ c.toNat < 1114112 := c.valid
  have whole : c.val.toNat = c.toNat := rfl
  unfold String.utf8EncodeChar
  simp only [whole]
  split_ifs with one two three
  · refine ⟨_, [], rfl, fun position => ?_⟩
    have first := @toNat_ofNat_of_lt c.toNat (by omega)
    rw [List.nil_append, utf8Char_one (by omega), first, Char.ofNat_toNat]
  · refine ⟨_, [_], rfl, fun position => ?_⟩
    have first := @toNat_ofNat_of_lt (c.toNat / 64 % 32 + 192) (by omega)
    have second := @toNat_ofNat_of_lt (c.toNat % 64 + 128) (by omega)
    have value : (c.toNat / 64 % 32 + 192) % 32 * 64 + (c.toNat % 64 + 128) % 64 = c.toNat := by omega
    rw [List.singleton_append, utf8Char_two, first, second, value, Char.ofNat_toNat]
    · omega
    · rw [utf8SecondAllowed_iff, first, second]
      omega
  · refine ⟨_, [_, _], rfl, fun position => ?_⟩
    have first := @toNat_ofNat_of_lt (c.toNat / 4096 % 16 + 224) (by omega)
    have second := @toNat_ofNat_of_lt (c.toNat / 64 % 64 + 128) (by omega)
    obtain ⟨continues, third⟩ := isContinuation_low c.toNat
    have value : ((c.toNat / 4096 % 16 + 224) % 16 * 64 + (c.toNat / 64 % 64 + 128) % 64) * 64 +
        c.toNat % 64 = c.toNat := by omega
    rw [List.cons_append, List.singleton_append, utf8Char_three _ _ continues, first, second, third,
      value, Char.ofNat_toNat]
    · omega
    · rw [utf8SecondAllowed_iff, first, second]
      omega
  · refine ⟨_, [_, _, _], rfl, fun position => ?_⟩
    have first := @toNat_ofNat_of_lt (c.toNat / 262144 % 8 + 240) (by omega)
    have second := @toNat_ofNat_of_lt (c.toNat / 4096 % 64 + 128) (by omega)
    obtain ⟨continues, third⟩ := isContinuation_low (c.toNat / 64)
    obtain ⟨continues', fourth⟩ := isContinuation_low c.toNat
    have value : (((c.toNat / 262144 % 8 + 240) % 8 * 64 + (c.toNat / 4096 % 64 + 128) % 64) * 64 +
        c.toNat / 64 % 64) * 64 + c.toNat % 64 = c.toNat := by omega
    rw [List.cons_append, List.cons_append, List.singleton_append,
      utf8Char_four _ _ continues continues', first, second, third, fourth, value, Char.ofNat_toNat]
    · omega
    · rw [utf8SecondAllowed_iff, first, second]
      omega

/-! ### A text -/

theorem utf8From_encoded {text : List Char} {steps : Nat} (enough : text.length ≤ steps)
    (position : Nat) : utf8From steps position (text.flatMap String.utf8EncodeChar) = .ok text := by
  induction text generalizing steps position with
  | nil => cases steps <;> rfl
  | cons c text ih =>
    obtain ⟨steps, rfl⟩ : ∃ fewer, steps = fewer + 1 := Nat.exists_eq_add_one.mpr (by
      rw [List.length_cons] at enough
      omega)
    obtain ⟨first, tail, encoded, read⟩ := exists_utf8Char c (text.flatMap String.utf8EncodeChar)
    rw [List.flatMap_cons, encoded, List.cons_append, utf8From, read]
    simp only [ih (Nat.le_of_succ_le_succ enough)]
    rfl

theorem ofUtf8_toUTF8 (text : List Char) : ofUtf8 (String.ofList text).toUTF8.data.toList = .ok text := by
  have bytes : (String.ofList text).toUTF8.data.toList = text.flatMap String.utf8EncodeChar :=
    List.toList_data_toByteArray
  have enough : text.length ≤ (text.flatMap String.utf8EncodeChar).length := by
    rw [List.length_flatMap]
    have each : ∀ c ∈ text, 1 ≤ (String.utf8EncodeChar c).length := by
      intro c _
      rw [String.length_utf8EncodeChar]
      exact c.utf8Size_pos
    simpa using List.card_nsmul_le_sum (text.map fun c => (String.utf8EncodeChar c).length) 1
      (by simpa using each)
  rw [bytes]
  exact utf8From_encoded enough 0

end Elevation.Text
