import Elevation.Archive.Bytes
import Mathlib

/-!
Fields of known bytes. Where the bytes of a list stand in an archive, numbers, marks and slices can
be read off the list.
-/

namespace Elevation.Archive

def Stands (part : List UInt8) (bytes : ByteArray) (place : Nat) : Prop :=
  part <+: bytes.data.toList.drop place

def numberBytes : (count : Nat) → Nat → List UInt8
  | 0, _ => []
  | count + 1, n => UInt8.ofNat n :: numberBytes count (n / 256)

variable {part : List UInt8} {bytes : ByteArray} {place offset count n : Nat}

theorem length_toList (bytes : ByteArray) : bytes.data.toList.length = bytes.size := Array.length_toList

theorem Stands.size_le (stands : Stands part bytes place) (inside : 0 < part.length) :
    place + part.length ≤ bytes.size := by
  have length := stands.length_le
  rw [List.length_drop, length_toList] at length
  omega

theorem Stands.drop (stands : Stands part bytes place) (offset : Nat) :
    Stands (part.drop offset) bytes (place + offset) := by
  obtain ⟨rest, whole⟩ := stands
  refine ⟨rest.drop (offset - part.length), ?_⟩
  rw [← List.drop_drop, ← whole, List.drop_append]

theorem Stands.take (stands : Stands part bytes place) (count : Nat) :
    Stands (part.take count) bytes place := (List.take_prefix count part).trans stands

theorem stands_append (front : ByteArray) (part : List UInt8) (back : ByteArray) :
    Stands part (front ++ (part.toByteArray ++ back)) front.size := by
  refine ⟨back.data.toList, ?_⟩
  simp [ByteArray.data_append]

/-! ### Numbers -/

theorem byteAt_of_stands {byte : UInt8} {rest : List UInt8} (stands : Stands (byte :: rest) bytes place) :
    byteAt bytes place = byte.toNat := by
  have inside := stands.size_le (by simp)
  obtain ⟨more, whole⟩ := stands
  have here : place < bytes.size := by
    simp only [List.length_cons] at inside
    omega
  rw [List.drop_eq_getElem_cons (by rwa [length_toList])] at whole
  rw [byteAt, dif_pos here]
  exact congrArg UInt8.toNat (List.cons.inj whole).1.symm

theorem littleEndian_of_stands (stands : Stands (numberBytes count n) bytes place)
    (small : n < 256 ^ count) : littleEndian bytes place count = n := by
  induction count generalizing n place with
  | zero =>
    rw [Nat.pow_zero] at small
    rw [littleEndian]
    omega
  | succ count ih =>
    have rest := ih (stands.drop 1) (by rw [Nat.pow_succ] at small; omega)
    rw [littleEndian, byteAt_of_stands stands, rest, UInt8.toNat_ofNat']
    omega

theorem Stands.number (stands : Stands part bytes place)
    (field : (part.drop offset).take count = numberBytes count n) (small : n < 256 ^ count) :
    littleEndian bytes (place + offset) count = n := by
  have here := (stands.drop offset).take count
  rw [field] at here
  exact littleEndian_of_stands here small

/-! ### Marks and slices -/

theorem Stands.hasMark {mark : List Nat} (stands : Stands (mark.map UInt8.ofNat) bytes place)
    (some : mark ≠ []) (small : ∀ byte ∈ mark, byte < 256) : hasMark bytes place mark = true := by
  have inside := stands.size_le (by simpa using List.length_pos_iff.mpr some)
  rw [List.length_map] at inside
  unfold Archive.hasMark
  rw [Bool.and_eq_true, decide_eq_true_iff, List.all_eq_true]
  refine ⟨inside, ?_⟩
  rintro ⟨byte, offset⟩ present
  obtain ⟨within, same⟩ := List.mem_zipIdx' present
  have here := stands.drop offset
  rw [← List.map_drop, List.drop_eq_getElem_cons within, List.map_cons, ← same] at here
  have value : byte < 256 := small byte (same ▸ List.getElem_mem within)
  simp [byteAt_of_stands here, Nat.mod_eq_of_lt value]

theorem Stands.slice (stands : Stands part bytes place) {start stop : Nat} (order : start ≤ stop)
    (inside : stop ≤ part.length) :
    (slice bytes (place + start) (place + stop)).data.toList = (part.drop start).take (stop - start) := by
  obtain ⟨rest, whole⟩ := stands.drop start
  have length : stop - start ≤ (part.drop start).length := by
    rw [List.length_drop]
    omega
  rw [Archive.slice, ByteArray.data_extract, Array.toList_extract, List.extract_eq_take_drop, ← whole,
    Nat.add_sub_add_left, List.take_append_of_le_length length]

end Elevation.Archive
