import Elevation.Proofs.Archive.Writing
import Elevation.Proofs.Tile.Decoding
import Elevation.Standin.Basic

/-!
Decoding loses nothing and adds nothing. A payload of the right length gives its samples, however
the source cuts it into pieces, also in the middle of a sample; one that is too short is reported
with its length, and one that is too long is refused. What was written high byte first is read back.
-/

namespace Elevation.Tile

variable {σ : Type} {reader : Reader Archive.Fault σ} {payload archive : ByteArray} {source : σ}
  {stream : Archive.Stream} {width : Nat}

/-! ### An open entry as a source -/

def Opens [Machine] (archive : ByteArray) (stream : Archive.Stream) : Prop :=
  ∃ directory entry rest, Archive.readDirectory (.file Machine.largestFile) archive = .ok directory ∧
    directory.entries = entry :: rest ∧
    Archive.openEntry (.file Machine.largestFile) archive directory 0 entry entry.describe = .ok stream

/-- Decoding from any source of bytes that is open. -/
def decodeFrom [Machine] (reader : Reader Archive.Fault σ) (path : String) (width : Int) (source : σ) :
    Except Failure (Array Int × Nat) :=
  match roomFailure? (payloadSize width) with
  | some failure => .error failure
  | none =>
    match (readPayload reader (payloadSize width) source).mapError (archiveFailure path) with
    | .error failure => .error failure
    | .ok (.short filled) => .error (.shortArchive path filled (payloadSize width))
    | .ok .long => .error (.longArchive path (payloadSize width))
    | .ok (.exact bytes) => .ok (mask (samplesOf bytes))

theorem decode_of_opens [Machine] (opens : Opens archive stream) (path : String) (width : Int) :
    decode path (.ok archive) width =
      decodeFrom (fun count stream => Archive.Stream.read stream count) path width stream := by
  obtain ⟨directory, entry, rest, read, listed, opened⟩ := opens
  have payload : archivePayload path (.ok archive) width =
      (readPayload (fun count stream => Archive.Stream.read stream count) (payloadSize width)
        stream).mapError (archiveFailure path) := by
    simp only [archivePayload, read, listed, readEntryPayload, opened]
  unfold decode decodeFrom
  exact payload ▸ rfl

theorem size_gather_le {steps count : Nat} {taken data : ByteArray} {next : Archive.Stream}
    (gathered : stream.gather steps count taken = .ok (data, next)) : data.size ≤ taken.size + count := by
  induction steps generalizing count taken stream with
  | zero =>
    obtain ⟨rfl, rfl⟩ := Prod.mk.inj (Except.ok.inj gathered)
    omega
  | succ steps ih =>
    rw [Archive.Stream.gather] at gathered
    split_ifs at gathered with done
    · obtain ⟨rfl, rfl⟩ := Prod.mk.inj (Except.ok.inj gathered)
      omega
    · split at gathered
      next => cases gathered
      next piece rest _ =>
        split_ifs at gathered with beyond
        · obtain ⟨rfl, rfl⟩ := Prod.mk.inj (Except.ok.inj gathered)
          rw [ByteArray.size_append, size_extract_of_le beyond.le]
          omega
        · have bound := ih gathered
          rw [ByteArray.size_append] at bound
          omega

theorem modest_read : Modest fun count stream => Archive.Stream.read stream count := by
  intro count stream piece next read
  simp only [Archive.Stream.read] at read
  split_ifs at read with waiting
  · obtain ⟨rfl, rfl⟩ := Prod.mk.inj (Except.ok.inj read)
    rw [size_extract_of_le waiting.le]
    omega
  · have bound := size_gather_le read
    omega

/-- A source that hands out its payload at a pace of its own: so many bytes and one at each place. -/
def paced (payload : ByteArray) (pace : Nat → Nat) : Reader Archive.Fault Nat := fun count place =>
  let size := min (min count (pace place + 1)) (payload.size - place)
  .ok (payload.extract place (place + size), place + size)

theorem modest_paced (payload : ByteArray) (pace : Nat → Nat) : Modest (paced payload pace) := by
  intro count place piece next read
  obtain ⟨rfl, rfl⟩ := Prod.mk.inj (Except.ok.inj read)
  rw [ByteArray.size_extract]
  omega

theorem yields_paced (payload : ByteArray) (pace : Nat → Nat) : Yields (paced payload pace) payload 0 := by
  refine ⟨fun place source => source = place ∧ place ≤ payload.size, ?_, rfl, Nat.zero_le _⟩
  rintro place _ ⟨rfl, within⟩ count positive
  exact ⟨_, _, rfl, by omega, by omega, rfl, by omega⟩

/-! ### Numbers high byte first -/

def pairOf (value : Int) : List UInt8 :=
  [UInt8.ofBitVec ((BitVec.ofInt 16 value).extractLsb' 8 8),
    UInt8.ofBitVec ((BitVec.ofInt 16 value).extractLsb' 0 8)]

def written (heights : List Int) : ByteArray := (heights.flatMap pairOf).toByteArray

theorem size_written (heights : List Int) : (written heights).size = 2 * heights.length := by
  rw [written, List.size_toByteArray, List.length_flatMap]
  simp [pairOf, Nat.mul_comm]

theorem bits_of_pair (bits : BitVec 16) :
    bits.extractLsb' 8 8 ++ bits.extractLsb' 0 8 = bits := by
  rw [BitVec.extractLsb'_append_extractLsb'_eq_extractLsb' (by decide)]
  exact BitVec.extractLsb'_eq_self

theorem drop_flatMap_pairOf (heights : List Int) (i : Nat) :
    (heights.flatMap pairOf).drop (2 * i) = (heights.drop i).flatMap pairOf := by
  induction i generalizing heights with
  | zero => rfl
  | succ i ih =>
    cases heights with
    | nil => rfl
    | cons height rest => exact ih rest

theorem eq_of_writes {heights : List Int} {i : Nat} {value : Int} (inside : i < heights.length)
    (small : inSampleRange heights[i] = true) (writes : Writes (written heights) (2 * i) value) :
    value = heights[i] := by
  have pair : (heights.flatMap pairOf).drop (2 * i) =
      pairOf heights[i] ++ (heights.drop (i + 1)).flatMap pairOf := by
    rw [drop_flatMap_pairOf, List.drop_eq_getElem_cons inside, List.flatMap_cons]
  have place (offset : Nat) : (written heights).data[2 * i + offset]? =
      ((heights.flatMap pairOf).drop (2 * i))[offset]? := by
    rw [written, List.getElem?_drop, ← Array.getElem?_toList, List.data_toByteArray]
  obtain ⟨high, low, first, second, rfl⟩ := writes
  have high_eq := (place 0).symm.trans first
  have low_eq := (place 1).symm.trans second
  rw [pair] at high_eq low_eq
  obtain rfl := Option.some.inj high_eq
  obtain rfl := Option.some.inj low_eq
  have range : -2 ^ 15 ≤ heights[i] ∧ heights[i] < 2 ^ 15 := by
    simp only [inSampleRange, Bool.and_eq_true, decide_eq_true_iff] at small
    omega
  change (BitVec.toInt (BitVec.extractLsb' 8 8 _ ++ BitVec.extractLsb' 0 8 _)) = _
  rw [bits_of_pair]
  exact BitVec.toInt_ofInt_eq_self (by decide) range.1 range.2

/-! ### What decoding has to give -/

def IsKept (height : Int) : Prop := -1000 ≤ height ∧ height ≤ 10000 ∨ height = -32768

instance (height : Int) : Decidable (IsKept height) := inferInstanceAs (Decidable (_ ∨ _))

theorem maskHeight_eq (value : Int) :
    maskHeight value = if -1000 ≤ value ∧ value ≤ 10000 then value else -32768 := by
  rw [maskHeight, voidHeight]
  exact if_congr (isPlausible_iff value) rfl rfl

theorem maskHeight_of_isKept {height : Int} (kept : IsKept height) : maskHeight height = height := by
  rw [maskHeight_eq]
  rcases kept with band | rfl
  · rw [if_pos band]
  · rfl

theorem inSampleRange_of_isKept {height : Int} (kept : IsKept height) : inSampleRange height = true := by
  rw [inSampleRange, Bool.and_eq_true, decide_eq_true_iff, decide_eq_true_iff]
  rcases kept with band | rfl
  · omega
  · decide

/-- The outcome of decoding a payload: samples exactly for the right length, and the two refusals. -/
structure Decodes (path : String) (width : Nat) (payload : ByteArray)
    (outcome : Except Failure (Array Int × Nat)) : Prop where
  succeeds : (∃ decoded, outcome = .ok decoded) ↔ payload.size = 2 * (width * width)
  samples : ∀ samples voids, outcome = .ok (samples, voids) →
    samples.size = width * width ∧ ∀ i < width * width, ∃ value, Writes payload (2 * i) value ∧
      samples[i]? = some (if -1000 ≤ value ∧ value ≤ 10000 then value else -32768)
  short : payload.size < 2 * (width * width) →
    outcome = .error (.shortArchive path payload.size (2 * (width * width)))
  long : 2 * (width * width) < payload.size →
    outcome = .error (.longArchive path (2 * (width * width)))

theorem decodes_mask_samplesOf (path : String) (size : payload.size = 2 * (width * width)) :
    Decodes path width payload (.ok (mask (samplesOf payload))) where
  succeeds := ⟨fun _ => size, fun _ => ⟨_, rfl⟩⟩
  samples := by
    rintro samples voids same
    obtain ⟨rfl, -⟩ := Prod.mk.inj (Except.ok.inj same)
    have whole : (mask (samplesOf payload)).1.size = width * width := by
      simp only [mask, Array.size_map, size_samplesOf]
      omega
    refine ⟨whole, ?_⟩
    intro i inside
    have within : i < (samplesOf payload).size := by
      rw [size_samplesOf]
      omega
    refine ⟨_, writes_samplesOf within, ?_⟩
    rw [← maskHeight_eq]
    simp only [Array.getElem?_map, Array.getElem?_eq_getElem within, Option.map_some]
  short := fun short => absurd short size.ge.not_gt
  long := fun long => absurd long size.le.not_gt

theorem decodes_error {path : String} {failure : Failure} (apart : payload.size ≠ 2 * (width * width))
    (short : payload.size < 2 * (width * width) →
      failure = .shortArchive path payload.size (2 * (width * width)))
    (long : 2 * (width * width) < payload.size → failure = .longArchive path (2 * (width * width))) :
    Decodes path width payload (.error failure) where
  succeeds := by
    constructor
    · rintro ⟨decoded, same⟩
      cases same
    · intro size
      exact absurd size apart
  samples := by
    intro samples voids same
    cases same
  short := fun less => congrArg Except.error (short less)
  long := fun more => congrArg Except.error (long more)

theorem decodes_decodeFrom [Machine] (room : roomFailure? (payloadSize width) = none)
    (modest : Modest reader) (yields : Yields reader payload source) (path : String) :
    Decodes path width payload (decodeFrom reader path width source) := by
  have expected : payloadSize width = 2 * (width * width) := by
    rw [payloadSize, Int.natAbs_natCast]
  rw [expected] at room
  have read : readPayload reader (2 * (width * width)) source =
      .ok (measured payload (2 * (width * width))) := readPayload_of_yields yields (Or.inr modest)
  simp only [decodeFrom, expected, room, read, measured]
  by_cases short : payload.size < 2 * (width * width)
  · simp only [if_pos short, Except.mapError]
    exact decodes_error short.ne (fun _ => rfl) fun long => absurd long short.not_gt
  · by_cases long : 2 * (width * width) < payload.size
    · simp only [if_neg short, if_pos long, Except.mapError]
      exact decodes_error long.ne' (fun again => absurd again short) fun _ => rfl
    · simp only [if_neg short, if_neg long, Except.mapError]
      exact decodes_mask_samplesOf path (by omega)

theorem decodes_decode [Machine] (room : roomFailure? (payloadSize width) = none)
    (holds : Holds archive payload) (path : String) : Decodes path width payload (decode path (.ok archive) width) := by
  obtain ⟨directory, entry, rest, stream, read, listed, opened, yields⟩ := holds
  rw [decode_of_opens ⟨directory, entry, rest, read, listed, opened⟩]
  exact decodes_decodeFrom room modest_read yields path

theorem decode_written [Machine] (room : roomFailure? (payloadSize width) = none) {heights : List Int}
    (square : heights.length = width * width) (kept : ∀ height ∈ heights, IsKept height)
    (holds : Holds archive (written heights)) (path : String) :
    ∃ voids, decode path (.ok archive) width = .ok (heights.toArray, voids) := by
  have decodes := decodes_decode room holds path
  have size : (written heights).size = 2 * (width * width) := by
    rw [size_written, square]
  obtain ⟨⟨samples, voids⟩, decoded⟩ := decodes.succeeds.mpr size
  obtain ⟨whole, each⟩ := decodes.samples samples voids decoded
  refine ⟨voids, ?_⟩
  rw [decoded]
  suffices same : samples = heights.toArray by rw [same]
  apply Array.ext
  · rw [whole, List.size_toArray, square]
  · intro i inside within
    rw [List.size_toArray] at within
    have proper := kept _ (List.getElem_mem within)
    obtain ⟨value, writes, sample⟩ := each i (whole ▸ inside)
    obtain rfl := eq_of_writes within (inSampleRange_of_isKept proper) writes
    rw [← maskHeight_eq, maskHeight_of_isKept proper, Array.getElem?_eq_getElem inside] at sample
    rw [Option.some.inj sample, List.getElem_toArray]

/-- For every width whose bytes there is room for, decoding gives a result exactly for payloads of the
right length, whatever pieces the source cuts them into; the result has the samples that the payload
writes, and grids of heights survive being written and decoded. -/
theorem decode_exact [Machine] (room : 2 * (width * width) ≤ Machine.mostReserved) (path : String) :
    (∀ (σ : Type) (reader : Reader Archive.Fault σ) (payload : ByteArray) (source : σ),
      Modest reader → Yields reader payload source →
        Decodes path width payload (decodeFrom reader path width source)) ∧
    (∀ archive stream, Opens archive stream →
      decode path (.ok archive) width =
        decodeFrom (fun count stream => Archive.Stream.read stream count) path width stream) ∧
    (∀ archive payload, Holds archive payload →
      Decodes path width payload (decode path (.ok archive) width)) ∧
    ∀ (archive : ByteArray) (grid : List (List Int)), grid.length = width →
      (∀ row ∈ grid, row.length = width ∧ ∀ height ∈ row, IsKept height) →
      Holds archive (written grid.flatten) →
        ∃ voids, decode path (.ok archive) width = .ok (grid.flatten.toArray, voids) := by
  have roomy := roomFailure?_of_le room
  refine ⟨?_, ?_, ?_, ?_⟩
  · intro σ reader payload source modest yields
    exact decodes_decodeFrom roomy modest yields path
  · intro archive stream opens
    exact decode_of_opens opens path width
  · intro archive payload holds
    exact decodes_decode roomy holds path
  · intro archive grid rows square holds
    have length : grid.flatten.length = width * width := by
      rw [List.length_flatten, List.map_congr_left fun row listed => (square row listed).1,
        List.map_const', List.sum_replicate, rows, smul_eq_mul]
    apply decode_written roomy length _ holds
    intro height present
    obtain ⟨row, listed, inside⟩ := List.mem_flatten.mp present
    exact (square row listed).2 height inside

open scoped Standin

/-- A mountain next to the sea, and one sample that is missing. -/
def summit : List (List Int) := [[12, -7], [8848, -32768]]

/-- Pieces of three bytes, which cut samples in two. -/
theorem decode_exact_summit :
    2 * (2 * 2) ≤ Machine.mostReserved ∧
      Decodes "a" 2 (written summit.flatten)
        (decodeFrom (paced (written summit.flatten) fun _ => 2) "a" 2 0) ∧
      ∃ voids, decode "a" (.ok (Archive.storedArchive (written summit.flatten))) 2 =
        .ok (#[12, -7, 8848, -32768], voids) := by
  have room : 2 * (2 * 2) ≤ Machine.mostReserved := by decide
  obtain ⟨sources, -, -, grids⟩ := decode_exact room "a"
  refine ⟨room, ?_, ?_⟩
  · exact sources Nat _ _ 0 (modest_paced _ _) (yields_paced _ _)
  · apply grids _ summit rfl (by decide)
    exact Archive.holds_storedArchive (by decide) (by decide)

/-- There is no counting so many bytes, so this wide a tile is refused before its payload is found to
be too short. -/
theorem decode_uncountable :
    Holds (Archive.storedArchive (written summit.flatten)) (written summit.flatten) ∧
      (written summit.flatten).size < 2 * (2147483648 * 2147483648) ∧
      decode "a" (.ok (Archive.storedArchive (written summit.flatten))) 2147483648 =
        .error .tileUncountable :=
  ⟨Archive.holds_storedArchive (by decide) (by decide), by decide, rfl⟩

end Elevation.Tile
