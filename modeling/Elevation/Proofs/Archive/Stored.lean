import Elevation.Archive.Stream
import Elevation.Proofs.Tile.Decoding

/-!
Entries that are stored without packing. Such an entry hands out its data as they lie in the
archive, however many bytes are asked for at once, because a checksum that is continued over further
bytes is the checksum of all of them.
-/

namespace Elevation.Archive

/-! ### Checksums -/

namespace Checksum

theorem foldl_loop {β : Type} (step : β → UInt8 → β) (bytes : ByteArray) (left place : Nat) (start : β)
    (whole : left + place = bytes.size) :
    ByteArray.foldlM.loop (m := Id) (fun value byte => pure (step value byte)) bytes bytes.size le_rfl
        left place start =
      (bytes.data.toList.drop place).foldl step start := by
  have length : bytes.data.toList.length = bytes.size := Array.length_toList
  induction left generalizing place start with
  | zero =>
    rw [ByteArray.foldlM.loop, dif_neg (by omega), List.drop_of_length_le (by omega)]
    rfl
  | succ left ih =>
    have inside : place < bytes.size := by omega
    rw [ByteArray.foldlM.loop, dif_pos inside, List.drop_eq_getElem_cons (by omega), List.foldl_cons]
    exact ih (place + 1) _ (by omega)

theorem foldl_eq_foldl_toList {β : Type} (step : β → UInt8 → β) (start : β) (bytes : ByteArray) :
    bytes.foldl step start = bytes.data.toList.foldl step start := by
  rw [ByteArray.foldl, ByteArray.foldlM, dif_pos le_rfl]
  exact foldl_loop step bytes _ 0 start (by omega)

theorem extend_append (check : UInt32) (front back : ByteArray) :
    extend (extend check front) back = extend check (front ++ back) := by
  have twice (value : UInt32) : value ^^^ 0xffffffff ^^^ 0xffffffff = value := by
    rw [UInt32.xor_assoc, UInt32.xor_self, UInt32.xor_zero]
  simp only [extend, twice, foldl_eq_foldl_toList, ByteArray.toList_data_append, List.foldl_append]

end Checksum

/-! ### Streams of stored entries -/

/-- Data that lie in an archive from a place on. -/
structure LiesIn (payload bytes : ByteArray) (base : Nat) : Prop where
  within : base + payload.size ≤ bytes.size
  same : bytes.extract base (base + payload.size) = payload

/-- The stream of a stored entry of which so many bytes were taken up, some of them to be handed out
later. -/
def storedStream (bytes payload : ByteArray) (name : String) (base taken : Nat) (ahead : ByteArray) :
    Stream where
  bytes := bytes
  name := name
  expectedCheck := Checksum.extend 0 payload
  fetched := base + taken
  packedLeft := payload.size - taken
  left := payload.size - taken
  check := Checksum.extend 0 (payload.extract 0 taken)
  ended := payload.size ≤ taken
  ahead := ahead
  unpacker := .stored

variable {bytes payload ahead : ByteArray} {name : String} {base taken place count steps : Nat}

theorem liesIn_append (front payload back : ByteArray) :
    LiesIn payload (front ++ (payload ++ back)) front.size := by
  constructor
  · rw [ByteArray.size_append, ByteArray.size_append]
    omega
  · have shifted := @ByteArray.extract_append_size_add front (payload ++ back) 0 payload.size
    rw [Nat.add_zero] at shifted
    rw [shifted, ByteArray.extract_append_size_left, ByteArray.extract_zero_size]

theorem extract_extract_of_le {first last start stop : Nat} (inside : first + stop ≤ last) :
    (payload.extract first last).extract start stop = payload.extract (first + start) (first + stop) := by
  rw [ByteArray.extract_extract, min_eq_left inside]

theorem LiesIn.extract (lies : LiesIn payload bytes base) {start stop : Nat} (inside : stop ≤ payload.size) :
    bytes.extract (base + start) (base + stop) = payload.extract start stop := by
  conv_rhs => rw [← lies.same, extract_extract_of_le (Nat.add_le_add_left inside base)]

theorem extract_append_extract_of_le {start middle stop : Nat} (first : start ≤ middle)
    (second : middle ≤ stop) :
    payload.extract start middle ++ payload.extract middle stop = payload.extract start stop := by
  rw [ByteArray.extract_append_extract, min_eq_left first, max_eq_right second]

/-! ### Taking up pieces -/

theorem pieceSize_of_within {stream : Stream} (more : stream.packedLeft ≠ 0)
    (within : stream.fetched + stream.packedLeft ≤ stream.bytes.size) (count : Nat) :
    stream.pieceSize count = .ok (min (max count leastPiece) stream.packedLeft) := by
  have least : 0 < leastPiece := by decide
  have present : min (min (max count leastPiece) stream.packedLeft) (stream.bytes.size - stream.fetched) =
      min (max count leastPiece) stream.packedLeft := by omega
  unfold Stream.pieceSize
  simp only [present]
  rw [if_neg more, if_neg (by omega)]

theorem account_of_sound {stream : Stream} {data : ByteArray} {ended : Bool}
    (fits : data.size ≤ stream.left) (last : ended = decide (stream.left - data.size = 0))
    (sound : ended = true → Checksum.extend stream.check data = stream.expectedCheck)
    (unpacker : Unpacker) :
    stream.account data ended unpacker =
      .ok (data,
        { stream with
          left := stream.left - data.size
          ended := ended
          check := Checksum.extend stream.check data
          unpacker := unpacker }) := by
  unfold Stream.account
  rw [if_neg (not_lt.mpr fits)]
  simp only [← last, Bool.or_self]
  cases ended with
  | false => rfl
  | true => simp [sound rfl]

theorem account_stored {next : Nat} (onward : taken ≤ next) (within : next ≤ payload.size) :
    Stream.account
        { storedStream bytes payload name base taken ahead with
          fetched := base + next
          packedLeft := payload.size - next }
        (payload.extract taken next) (decide (payload.size ≤ next)) .stored =
      .ok (payload.extract taken next, storedStream bytes payload name base next ahead) := by
  have size : (payload.extract taken next).size = next - taken := Tile.size_extract_of_le within
  have rest : payload.size - taken - (next - taken) = payload.size - next := by omega
  have front := @extract_append_extract_of_le payload 0 taken next (Nat.zero_le _) onward
  rw [account_of_sound]
  · simp only [storedStream, size, rest, Checksum.extend_append, front]
  · change (payload.extract taken next).size ≤ payload.size - taken
    omega
  · change _ = decide (payload.size - taken - (payload.extract taken next).size = 0)
    simp only [size, rest, Nat.sub_eq_zero_iff_le]
  · intro ended
    change Checksum.extend (Checksum.extend 0 (payload.extract 0 taken)) (payload.extract taken next) =
      Checksum.extend 0 payload
    obtain rfl : next = payload.size := le_antisymm within (of_decide_eq_true ended)
    rw [Checksum.extend_append, front, ByteArray.extract_zero_size]

/-- Unpacking takes up the next piece, of at least as many bytes as are wanted. -/
theorem LiesIn.unpack (lies : LiesIn payload bytes base) (more : taken < payload.size) (count : Nat) :
    ∃ next, taken < next ∧ next ≤ payload.size ∧ min (taken + count) payload.size ≤ next ∧
      (storedStream bytes payload name base taken ahead).unpack count =
        .ok (payload.extract taken next, storedStream bytes payload name base next ahead) := by
  have within := lies.within
  have least : 0 < leastPiece := by decide
  obtain ⟨next, sum⟩ : ∃ next, next = taken + min (max count leastPiece) (payload.size - taken) :=
    ⟨_, rfl⟩
  refine ⟨next, by omega, by omega, by omega, ?_⟩
  have piece : (storedStream bytes payload name base taken ahead).pieceSize count = .ok (next - taken) := by
    rw [pieceSize_of_within]
    · exact congrArg Except.ok (by rw [sum]; exact (Nat.add_sub_cancel_left ..).symm)
    · exact (Nat.sub_pos_of_lt more).ne'
    · change base + taken + (payload.size - taken) ≤ bytes.size
      omega
  have fetched : base + taken + (next - taken) = base + next := by omega
  have rest : payload.size - taken - (next - taken) = payload.size - next := by omega
  have data : bytes.extract (base + taken) (base + taken + (next - taken)) =
      payload.extract taken next := by
    rw [fetched]
    exact lies.extract (by omega)
  have level : decide (payload.size - next = 0) = decide (payload.size ≤ next) := by
    simp only [Nat.sub_eq_zero_iff_le]
  unfold Stream.unpack
  rw [piece]
  change Stream.account
    { storedStream bytes payload name base taken ahead with
      fetched := base + taken + (next - taken)
      packedLeft := payload.size - taken - (next - taken) }
    (bytes.extract (base + taken) (base + taken + (next - taken)))
    (decide (payload.size - taken - (next - taken) = 0)) .stored = _
  rw [data, rest, fetched, level]
  exact account_stored (by omega) (by omega)

/-! ### Reading -/

theorem gather_of_done (done : count = 0 ∨ payload.size ≤ taken) (front : ByteArray) (steps : Nat) :
    (storedStream bytes payload name base taken .empty).gather (steps + 1) count front =
      .ok (front, storedStream bytes payload name base taken .empty) := by
  have finished : (count = 0 || (storedStream bytes payload name base taken .empty).ended) = true := by
    simpa [storedStream] using done
  rw [Stream.gather, if_pos finished]

/-- Gathering comes to what is wanted, as far as there is as much; two steps are enough. -/
theorem LiesIn.gather (lies : LiesIn payload bytes base) (within : taken ≤ payload.size)
    (count : Nat) (front : ByteArray) (steps : Nat) :
    ∃ stop next, stop = min (taken + count) payload.size ∧ stop ≤ next ∧ next ≤ payload.size ∧
      (storedStream bytes payload name base taken .empty).gather (steps + 2) count front =
        .ok (front ++ payload.extract taken stop,
          storedStream bytes payload name base next (payload.extract stop next)) := by
  by_cases done : count = 0 ∨ payload.size ≤ taken
  · refine ⟨taken, taken, by omega, le_rfl, within, ?_⟩
    rw [gather_of_done done, ByteArray.extract_same, ByteArray.append_empty]
  · obtain ⟨next, more, inside, enough, unpacked⟩ :=
      @LiesIn.unpack bytes payload .empty name base taken lies (by omega) count
    have size : (payload.extract taken next).size = next - taken := Tile.size_extract_of_le inside
    have going : ¬ (count = 0 || (storedStream bytes payload name base taken .empty).ended) = true := by
      simpa [storedStream] using done
    rw [Stream.gather, if_neg going, unpacked]
    simp only [size]
    by_cases beyond : count < next - taken
    · have wanted : (payload.extract taken next).extract 0 count = payload.extract taken (taken + count) :=
        extract_extract_of_le (by omega)
      have rest : (payload.extract taken next).extract count (next - taken) =
          payload.extract (taken + count) next := by
        rw [extract_extract_of_le (by omega), Nat.add_sub_cancel' more.le]
      refine ⟨taken + count, next, by omega, by omega, inside, ?_⟩
      rw [if_pos beyond, wanted, rest]
      rfl
    · refine ⟨next, next, by omega, le_rfl, inside, ?_⟩
      rw [if_neg beyond, gather_of_done (by omega), ByteArray.extract_same]

theorem yields_storedStream (lies : LiesIn payload bytes base) (name : String) :
    Tile.Yields (fun count stream => Stream.read stream count) payload
      (storedStream bytes payload name base 0 .empty) := by
  refine ⟨fun place stream => ∃ taken, place ≤ taken ∧ taken ≤ payload.size ∧
    stream = storedStream bytes payload name base taken (payload.extract place taken), ?_,
    0, le_rfl, Nat.zero_le _, by rw [ByteArray.extract_same]⟩
  rintro place _ ⟨taken, before, within, rfl⟩ count positive
  have size : (payload.extract place taken).size = taken - place := Tile.size_extract_of_le within
  have ahead : (storedStream bytes payload name base taken (payload.extract place taken)).ahead.size =
      taken - place := size
  simp only [Stream.read, ahead]
  by_cases waiting : count < taken - place
  · have handed : (payload.extract place taken).extract 0 count = payload.extract place (place + count) :=
      extract_extract_of_le (by omega)
    have rest : (payload.extract place taken).extract count (taken - place) =
        payload.extract (place + count) taken := by
      rw [extract_extract_of_le (by omega), Nat.add_sub_cancel' before]
    refine ⟨count, storedStream bytes payload name base taken (payload.extract (place + count) taken),
      ?_, by omega, by omega, taken, by omega, within, rfl⟩
    rw [if_pos waiting, ← handed, ← rest]
    rfl
  · obtain ⟨stop, next, reach, last, inside, gathered⟩ :=
      @LiesIn.gather bytes payload name base taken lies within (count - (taken - place))
        (payload.extract place taken) (bytes.size + count)
    refine ⟨stop - place, storedStream bytes payload name base next (payload.extract stop next),
      ?_, by omega, by omega, next, by omega, inside, by rw [Nat.add_sub_cancel' (by omega)]⟩
    rw [if_neg waiting, Nat.add_sub_cancel' (by omega),
      ← extract_append_extract_of_le before (by omega : taken ≤ stop)]
    exact gathered

theorem LiesIn.readAll (lies : LiesIn payload bytes base) (short : payload.size ≤ wholeEntry)
    (name : String) : (storedStream bytes payload name base 0 .empty).readAll = .ok payload := by
  obtain ⟨stop, next, reach, -, -, gathered⟩ :=
    @LiesIn.gather bytes payload name base 0 lies (Nat.zero_le _) wholeEntry .empty bytes.size
  obtain rfl : stop = payload.size := by omega
  rw [ByteArray.extract_zero_size, ByteArray.empty_append] at gathered
  unfold Stream.readAll
  change Except.map Prod.fst ((storedStream bytes payload name base 0 .empty).gather (bytes.size + 2)
    wholeEntry .empty) = _
  rw [gathered]
  rfl

end Elevation.Archive
