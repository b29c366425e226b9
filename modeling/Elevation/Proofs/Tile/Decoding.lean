import Elevation.Proofs.Tile.Nearest

/-!
Samples of an archive. Whatever the pieces in which a reader hands out a payload, the payload is
collected as a whole, and its samples are the signed numbers that pairs of bytes write, high byte
first, with everything implausible masked.
-/

namespace Elevation.Tile

variable {ε σ : Type} {reader : Reader ε σ} {payload : ByteArray} {stands : Nat → σ → Prop}
  {place steps expected : Nat} {source : σ}

/-! ### Collecting a payload -/

/-- A reader that hands out a payload in pieces; `stands place source` says that a source has handed
out what stands before a place. -/
def HandsOut (reader : Reader ε σ) (payload : ByteArray) (stands : Nat → σ → Prop) : Prop :=
  ∀ place source, stands place source → ∀ count, 0 < count → ∃ size next,
    reader count source = .ok (payload.extract place (place + size), next) ∧
      place + size ≤ payload.size ∧ (size = 0 → place = payload.size) ∧ stands (place + size) next

def Yields (reader : Reader ε σ) (payload : ByteArray) (source : σ) : Prop :=
  ∃ stands, HandsOut reader payload stands ∧ stands 0 source

def Modest (reader : Reader ε σ) : Prop :=
  ∀ count source piece next, reader count source = .ok (piece, next) → piece.size ≤ count

theorem isEmpty_iff_size (bytes : ByteArray) : bytes.isEmpty = true ↔ bytes.size = 0 := by
  simp [ByteArray.isEmpty]

theorem size_extract_of_le {start stop : Nat} (inside : stop ≤ payload.size) :
    (payload.extract start stop).size = stop - start := by
  rw [ByteArray.size_extract, min_eq_left inside]

/-- Each piece is at least one byte long, so there are enough steps. A payload that is longer than
expected needs a modest reader, since only such a one stops where it is told to. -/
theorem collect_of_handsOut (handsOut : HandsOut reader payload stands) (stood : stands place source)
    (bounded : payload.size ≤ expected ∨ Modest reader) (within : place ≤ min expected payload.size)
    (enough : expected - place ≤ steps) :
    ∃ next, collect reader expected steps (payload.extract 0 place) source =
        .ok (payload.extract 0 (min expected payload.size), next) ∧
      stands (min expected payload.size) next := by
  induction steps generalizing place source with
  | zero =>
    obtain rfl : place = min expected payload.size := by omega
    exact ⟨source, rfl, stood⟩
  | succ steps ih =>
    have taken : (payload.extract 0 place).size = place := by
      rw [size_extract_of_le (by omega), Nat.sub_zero]
    rw [collect, taken]
    by_cases full : expected ≤ place
    · obtain rfl : place = min expected payload.size := by omega
      exact ⟨source, by rw [if_pos full], stood⟩
    · rw [if_neg full]
      have positive : 0 < min readSize (expected - place) := by
        unfold readSize
        omega
      obtain ⟨size, next, read, inside, ended, stood'⟩ := handsOut place source stood _ positive
      simp only [read, isEmpty_iff_size, size_extract_of_le inside, Nat.add_sub_cancel_left]
      by_cases none : size = 0
      · obtain rfl : place = min expected payload.size := by
          have last := ended none
          omega
        exact ⟨next, by rw [if_pos none], by rwa [none] at stood'⟩
      · have longer : payload.extract 0 place ++ payload.extract place (place + size) =
            payload.extract 0 (place + size) := by
          rw [ByteArray.extract_append_extract, Nat.zero_min, max_eq_right (Nat.le_add_right _ _)]
        have short : place + size ≤ min expected payload.size := by
          rcases bounded with whole | modest
          · omega
          · have least := modest _ _ _ _ read
            rw [size_extract_of_le inside] at least
            omega
        -- A piece takes at least one byte off what is missing, so one step less is enough.
        rw [if_neg none, longer]
        exact ih stood' short (by omega)

def measured (payload : ByteArray) (expected : Nat) : Payload :=
  if payload.size < expected then .short payload.size
  else if expected < payload.size then .long
  else .exact payload

theorem readPayload_of_yields (yields : Yields reader payload source)
    (bounded : payload.size ≤ expected ∨ Modest reader) :
    readPayload reader expected source = .ok (measured payload expected) := by
  obtain ⟨stands, handsOut, stood⟩ := yields
  obtain ⟨next, collected, stood'⟩ :=
    collect_of_handsOut handsOut stood bounded (Nat.zero_le _) (Nat.sub_le expected 0)
  have fresh : payload.extract 0 0 = .empty := by simp
  rw [fresh] at collected
  have taken : (payload.extract 0 (min expected payload.size)).size = min expected payload.size := by
    rw [size_extract_of_le (Nat.min_le_right _ _), Nat.sub_zero]
  unfold readPayload measured
  simp only [collected, taken]
  by_cases short : payload.size < expected
  · rw [if_pos (by omega), if_pos short, min_eq_right short.le]
  · obtain ⟨size, last, read, inside, ended, -⟩ := handsOut _ _ stood' 1 Nat.one_pos
    rw [min_eq_left (not_lt.mp short)] at read inside ended ⊢
    rw [if_neg (lt_irrefl _), if_neg short, read]
    simp only [isEmpty_iff_size, size_extract_of_le inside, Nat.add_sub_cancel_left]
    by_cases long : expected < payload.size
    · have more : size ≠ 0 := fun none => long.ne (ended none)
      rw [if_neg more, if_pos long]
    · obtain rfl : expected = payload.size := by omega
      obtain rfl : size = 0 := by omega
      rw [if_pos rfl, if_neg long, ByteArray.extract_zero_size]

/-! ### The samples of a payload -/

theorem sampleOf_eq_toInt (high low : UInt8) :
    sampleOf high low = (high.toBitVec ++ low.toBitVec : BitVec 16).toInt := by
  have whole : (high.toBitVec ++ low.toBitVec : BitVec 16).toNat = 256 * high.toNat + low.toNat := by
    rw [BitVec.toNat_append, ← Nat.shiftLeft_add_eq_or_of_lt low.toBitVec.isLt, Nat.shiftLeft_eq]
    exact congrArg (· + low.toNat) (Nat.mul_comm _ _)
  rw [BitVec.toInt_eq_toNat_cond, whole, sampleOf]
  split_ifs <;> omega

theorem size_samplesOf (bytes : ByteArray) : (samplesOf bytes).size = bytes.size / 2 := by
  simp [samplesOf]

def Writes (payload : ByteArray) (place : Nat) (value : Int) : Prop :=
  ∃ high low, payload.data[place]? = some high ∧ payload.data[place + 1]? = some low ∧
    value = (high.toBitVec ++ low.toBitVec : BitVec 16).toInt

theorem writes_samplesOf {payload : ByteArray} {i : Nat} (inside : i < (samplesOf payload).size) :
    Writes payload (2 * i) (samplesOf payload)[i] := by
  rw [size_samplesOf] at inside
  have high : 2 * i < payload.data.size := by
    change 2 * i < payload.size
    omega
  have low : 2 * i + 1 < payload.data.size := by
    change 2 * i + 1 < payload.size
    omega
  refine ⟨payload.data[2 * i], payload.data[2 * i + 1], Array.getElem?_eq_getElem high,
    Array.getElem?_eq_getElem low, ?_⟩
  rw [← sampleOf_eq_toInt]
  simp only [samplesOf, Array.getElem_ofFn]
  rfl

theorem getD_mask_samplesOf {payload : ByteArray} {i : Nat} (inside : i < payload.size / 2)
    (default : Int) :
    ∃ value, Writes payload (2 * i) value ∧
      (mask (samplesOf payload)).1.getD i default = maskHeight value := by
  rw [← size_samplesOf] at inside
  refine ⟨_, writes_samplesOf inside, ?_⟩
  simp [mask, Array.getD, inside]

/-! ### Decoding -/

section

variable [Machine]

/-- An archive whose first entry yields a payload. -/
def Holds (archive payload : ByteArray) : Prop :=
  ∃ directory entry rest stream, Archive.readDirectory (.file Machine.largestFile) archive = .ok directory ∧
    directory.entries = entry :: rest ∧
    Archive.openEntry (.file Machine.largestFile) archive directory 0 entry entry.describe = .ok stream ∧
    Yields (fun count stream => Archive.Stream.read stream count) payload stream

theorem roomFailure?_of_le {width : Nat} (room : 2 * (width * width) ≤ Machine.mostReserved) :
    roomFailure? (payloadSize width) = none := by
  have counted := Machine.counted
  rw [roomFailure?, payloadSize, Int.natAbs_natCast, if_neg (by omega), if_neg (by omega)]

theorem roomFailure?_of_narrow {width : Nat} (narrow : width ≤ widestExact) :
    roomFailure? (payloadSize width) = none := by
  have area : width * width ≤ 50000 * 50000 := Nat.mul_le_mul narrow narrow
  have ample := Machine.ample
  exact roomFailure?_of_le (by omega)

theorem decode_of_holds {archive : ByteArray} {width : Nat} (narrow : width ≤ widestExact)
    (holds : Holds archive payload) (size : payload.size = 2 * (width * width)) (path : String) :
    decode path (.ok archive) width = .ok (mask (samplesOf payload)) := by
  obtain ⟨directory, entry, rest, stream, read, listed, opened, yields⟩ := holds
  have expected : payloadSize width = payload.size := by
    rw [size, payloadSize, Int.natAbs_natCast]
  have collected := readPayload_of_yields yields (Or.inl le_rfl)
  rw [measured, if_neg (lt_irrefl _), if_neg (lt_irrefl _)] at collected
  unfold decode
  rw [roomFailure?_of_narrow narrow]
  simp only [archivePayload, read, listed, readEntryPayload, opened, expected, collected,
    Except.mapError]

end

theorem ofSamples_of_size {width : Nat} (cell : Cell) (size : payload.size = 2 * (width * width)) :
    ∃ tile, ofSamples cell width (mask (samplesOf payload)).1 = .ok tile ∧ tile.cell = cell ∧
      tile.width = width ∧ tile.samples = (mask (samplesOf payload)).1 := by
  have fits : (mask (samplesOf payload)).1.size = width * width := by
    simp only [mask, Array.size_map, size_samplesOf]
    omega
  refine ⟨⟨cell, width, _, fits⟩, ?_, rfl, rfl, rfl⟩
  simp [ofSamples, ofSamples?, fits]

theorem isPlausible_iff (height : Int) : isPlausible height = true ↔ -1000 ≤ height ∧ height ≤ 10000 := by
  rw [isPlausible, Bool.and_eq_true, decide_eq_true_iff, decide_eq_true_iff]
  rfl

theorem mem_of_decode [Machine] {path : String} {contents : Except Disk.Refusal ByteArray} {width : Int}
    {samples : Array Int} {voids : Nat} (decoded : decode path contents width = .ok (samples, voids)) :
    ∀ sample ∈ samples, -1000 ≤ sample ∧ sample ≤ 10000 ∨ sample = -32768 := by
  have masked (bytes : ByteArray) (made : mask (samplesOf bytes) = (samples, voids)) :
      ∀ sample ∈ samples, -1000 ≤ sample ∧ sample ≤ 10000 ∨ sample = -32768 := by
    obtain ⟨rfl, -⟩ := Prod.mk.inj made
    intro sample present
    obtain ⟨height, -, rfl⟩ := Array.mem_map.mp present
    unfold maskHeight
    split_ifs with inBand
    · exact Or.inl ((isPlausible_iff height).mp inBand)
    · exact Or.inr rfl
  unfold decode at decoded
  split at decoded
  next => cases decoded
  next =>
    split at decoded
    next => cases decoded
    next => cases decoded
    next => cases decoded
    next bytes _ => exact masked bytes (Except.ok.inj decoded)

/-- The height at a place is what the payload has at the nearest sample, if that is plausible. -/
theorem heightAt_of_payload {tile : Tile} {place : Place Rat}
    (wide : 2 ≤ tile.width ∧ tile.width ≤ widestExact) (located : place.cell = .ok tile.cell)
    (samples : tile.samples = (mask (samplesOf payload)).1)
    (size : payload.size = 2 * (tile.width * tile.width)) :
    ∃ row column value, IsNearest tile.cell tile.width place row column ∧
      Writes payload (2 * (row * tile.width + column)) value ∧
      tile.heightAt place = .ok (if isPlausible value then some value else none) := by
  obtain ⟨row, column, index, nearest⟩ := indexAt_of_cell wide located
  have inside : row * tile.width + column < payload.size / 2 := by
    have rows := Nat.mul_le_mul_right tile.width nearest.row_lt
    have last := nearest.column_lt
    rw [Nat.succ_mul] at rows
    omega
  obtain ⟨value, writes, sample⟩ := getD_mask_samplesOf inside voidHeight
  refine ⟨row, column, value, nearest, writes, ?_⟩
  have stored : tile.sampleAt row column = maskHeight value := by
    rw [sampleAt, samples, ← sample]
    congr 1
  unfold heightAt
  rw [index]
  simp only [Except.map, stored, maskHeight]
  by_cases inBand : isPlausible value = true
  · have proper : value ≠ voidHeight := by
      rintro rfl
      cases inBand
    simp [inBand, proper]
  · simp [inBand]

end Elevation.Tile
