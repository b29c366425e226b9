import Elevation.Proofs.Archive.Fields
import Elevation.Proofs.Archive.Stored

/-!
Archives of one stored entry. Written down field by field around a payload, such an archive is read
back: its directory lists one entry, and the entry yields the payload.
-/

namespace Elevation.Archive

section

variable (check size : Nat)

def sizeFields : List UInt8 := numberBytes 4 check ++ (numberBytes 4 size ++ numberBytes 4 size)

def storedHeader : List UInt8 :=
  headerMark.map UInt8.ofNat ++
    ([20, 0, 0, 0, 0, 0, 0, 0, 33, 0] ++ (sizeFields check size ++ [1, 0, 0, 0, 104]))

def storedEntry : List UInt8 :=
  entryMark.map UInt8.ofNat ++
    ([20, 0, 20, 0, 0, 0, 0, 0, 0, 0, 33, 0] ++
      (sizeFields check size ++ [1, 0, 0, 0, 0, 0, 0, 0, 0, 0, 0, 0, 0, 0, 0, 0, 0, 0, 104]))

def storedEnd : List UInt8 :=
  endMark.map UInt8.ofNat ++
    ([0, 0, 0, 0, 1, 0, 1, 0] ++ (numberBytes 4 47 ++ (numberBytes 4 (31 + size) ++ [0, 0])))

def storedTail : List UInt8 := storedEntry check size ++ storedEnd size

def storedListing : Entry where
  name := "h"
  rawName := "h"
  flags := 0
  method := 0
  check := check
  packedSize := size
  size := size
  attributes := 0
  offset := 0

end

/-- The archive of one entry, stored under a name of one letter. -/
def storedArchive (payload : ByteArray) : ByteArray :=
  let check := (Checksum.extend 0 payload).toNat
  (storedHeader check payload.size).toByteArray ++ (payload ++ (storedTail check payload.size).toByteArray)

variable {bytes : ByteArray} {check size place : Nat}

theorem size_storedArchive (payload : ByteArray) : (storedArchive payload).size = 100 + payload.size := by
  have header (check size : Nat) : (storedHeader check size).length = 31 := rfl
  have tail (check size : Nat) : (storedTail check size).length = 69 := rfl
  simp only [storedArchive, ByteArray.size_append, List.size_toByteArray, header, tail]
  omega

/-! ### Reading the parts -/

theorem readEntry_stored (stands : Stands (storedEntry check size) bytes 0)
    (sound : check < 256 ^ 4) (fits : size < 256 ^ 4) (full : bytes.size = 47) :
    readEntry bytes 0 = .ok (storedListing check size, 47, 47) := by
  have front : Stands (entryMark.map UInt8.ofNat) bytes 0 := (List.prefix_append _ _).trans stands
  have mark : hasMark bytes 0 entryMark = true := front.hasMark (by decide) (by decide)
  have flags : word16 bytes (0 + 8) = 0 := stands.number rfl (by decide)
  have nameSize : word16 bytes (0 + 28) = 1 := stands.number rfl (by decide)
  have extraSize : word16 bytes (0 + 30) = 0 := stands.number rfl (by decide)
  have commentSize : word16 bytes (0 + 32) = 0 := stands.number rfl (by decide)
  have version : word16 bytes (0 + 6) = 20 := stands.number rfl (by decide)
  have method : word16 bytes (0 + 10) = 0 := stands.number rfl (by decide)
  have checkField : word32 bytes (0 + 16) = check := stands.number rfl sound
  have packedSize : word32 bytes (0 + 20) = size := stands.number rfl fits
  have fullSize : word32 bytes (0 + 24) = size := stands.number rfl fits
  have attributes : word32 bytes (0 + 38) = 0 := stands.number rfl (by decide)
  have offset : word32 bytes (0 + 42) = 0 := stands.number rfl (by decide)
  have name : (slice bytes (0 + entryBytes) 47).data.toList = [104] :=
    @Stands.slice _ bytes 0 stands 46 47 (by decide) le_rfl
  have nameEnd : min 47 (0 + entryBytes + 1) = 47 := rfl
  have text : nameText 0 [104] = .ok "h" := rfl
  have extra : slice bytes 47 47 = .empty := ByteArray.extract_same
  unfold readEntry
  rw [full, if_neg (by decide), mark]
  simp only [flags, nameSize, extraSize, commentSize, version, method, checkField, packedSize,
    fullSize, attributes, offset, nameEnd, name, text, Nat.add_zero, min_self, extra]
  rfl

/-- No wide record stands before the end record: where its mark would be, there is the length of
the name. -/
theorem hasMark_wideLocator (stands : Stands (storedTail check size) bytes place) :
    hasMark bytes (place + 27) wideLocatorMark = false := by
  have second : byteAt bytes (place + 27 + 1) = 1 :=
    byteAt_of_stands ((stands.drop 28).take 1)
  simp [hasMark, wideLocatorMark, second]

theorem endRecord?_stored (stands : Stands (storedTail check size) bytes (31 + size))
    (full : bytes.size = 100 + size) (fits : 31 + size < 256 ^ 4) (medium : Medium) :
    endRecord? medium bytes = .ok (some ⟨47, 31 + size, 78 + size, 0⟩) := by
  have back : Stands (storedEnd size) bytes (78 + size) := by
    have last := stands.drop 47
    rwa [show 31 + size + 47 = 78 + size by omega] at last
  have front : Stands (endMark.map UInt8.ofNat) bytes (78 + size) := (List.prefix_append _ _).trans back
  have mark : hasMark bytes (78 + size) endMark = true := front.hasMark (by decide) (by decide)
  have comment : word16 bytes (78 + size + 20) = 0 := back.number rfl (by decide)
  have sizeField : word32 bytes (78 + size + 12) = 47 := back.number rfl (by decide)
  have offsetField : word32 bytes (78 + size + 16) = 31 + size := back.number rfl fits
  have locator : hasMark bytes (78 + size - wideLocatorBytes) wideLocatorMark = false := by
    have absent := hasMark_wideLocator stands
    rwa [show 31 + size + 27 = 78 + size - wideLocatorBytes by unfold wideLocatorBytes; omega] at absent
  have place : bytes.size - endRecordBytes = 78 + size := by
    unfold endRecordBytes
    omega
  have behind : bytes.size - 2 = 78 + size + 20 := by omega
  have wide : ¬ 78 + size < wideLocatorBytes := by
    unfold wideLocatorBytes
    omega
  have long : ¬ bytes.size < endRecordBytes := by
    unfold endRecordBytes
    omega
  unfold endRecord?
  simp only [long, place, behind, mark, comment, endRecordAt, widened, sizeField, offsetField, wide,
    locator, ↓reduceIte, Bool.and_self, decide_true, Bool.not_false, decide_false, Bool.and_false,
    Bool.false_eq_true, Except.map]

theorem readDirectory_stored (stands : Stands (storedTail check size) bytes (31 + size))
    (full : bytes.size = 100 + size) (sound : check < 256 ^ 4) (fits : 31 + size < 256 ^ 4)
    (medium : Medium) : readDirectory medium bytes = .ok ⟨[storedListing check size], 31 + size⟩ := by
  have entry : Stands (storedEntry check size) (slice bytes (31 + size) (31 + size + 47)) 0 := by
    refine ⟨[], ?_⟩
    rw [List.append_nil]
    exact (@Stands.slice _ bytes (31 + size) stands 0 47 (Nat.zero_le _) (by change 47 ≤ 69; decide)).symm
  have length : (slice bytes (31 + size) (31 + size + 47)).size = 47 := by
    rw [slice, ByteArray.size_extract]
    omega
  have read := readEntry_stored entry sound (by omega) length
  have shift : ((78 + size : Nat) : Int) - (0 : Nat) - (47 : Nat) - ((31 + size : Nat) : Int) = 0 := by
    omega
  have start : ((31 + size : Nat) : Int) + 0 = ((31 + size : Nat) : Int) := Int.add_zero _
  have positive : ¬ ((31 + size : Nat) : Int) < 0 := by omega
  have entries : readEntries (slice bytes (31 + size) (31 + size + 47)) 47 2 0 0 =
      .ok [storedListing check size] := by
    rw [readEntries, if_neg (by decide), read]
    rfl
  unfold readDirectory
  rw [endRecord?_stored stands full fits medium]
  simp only [shift, start, positive, ↓reduceIte, Int.toNat_natCast, length]
  change (readEntries _ 47 2 0 0).map _ = _
  rw [entries]
  rfl

/-! ### Opening the entry -/

theorem refuses_zero (medium : Medium) : medium.refuses 0 = none := by
  cases medium with
  | memory => rfl
  | file largest =>
    have inside : ¬ ((largest : Int) < 0) := not_lt.mpr (Int.natCast_nonneg largest)
    simp [Medium.refuses, farthestPlace, inside]

theorem openEntry_stored {payload : ByteArray} (front : Stands (storedHeader check payload.size) bytes 0)
    (full : bytes.size = 100 + payload.size) (sound : Checksum.extend 0 payload = UInt32.ofNat check)
    (some : 0 < payload.size) (medium : Medium) (shown : String) :
    openEntry medium bytes ⟨[storedListing check payload.size], 31 + payload.size⟩ 0
        (storedListing check payload.size) shown =
      .ok (storedStream bytes payload "h" 31 0 .empty) := by
  have start : Stands (headerMark.map UInt8.ofNat) bytes 0 := (List.prefix_append _ _).trans front
  have mark : hasMark bytes 0 headerMark = true := start.hasMark (by decide) (by decide)
  have nameSize : word16 bytes (0 + 26) = 1 := front.number rfl (by decide)
  have extraSize : word16 bytes (0 + 28) = 0 := front.number rfl (by decide)
  have flags : word16 bytes (0 + 6) = 0 := front.number rfl (by decide)
  have name : (slice bytes (0 + headerBytes) 31).data.toList = [104] :=
    @Stands.slice _ bytes 0 front 30 31 (by decide) le_rfl
  have nameEnd : min bytes.size (0 + headerBytes + 1) = 31 := by
    unfold headerBytes
    omega
  have dataStart : min bytes.size (31 + 0) = 31 := by omega
  have long : ¬ bytes.size < 0 + headerBytes := by
    unfold headerBytes
    omega
  have plain (bit : Nat) : flagSet (storedListing check payload.size).flags bit = false :=
    Nat.zero_testBit bit
  have room : ¬ Directory.endOf ⟨[storedListing check payload.size], 31 + payload.size⟩ 0
      (storedListing check payload.size) <
        ((31 + (storedListing check payload.size).packedSize : Nat) : Int) := lt_irrefl _
  have text : nameText 0 [104] = .ok "h" := rfl
  have same : ¬ "h" ≠ (storedListing check payload.size).rawName := not_not.mpr rfl
  have stream : storedStream bytes payload "h" 31 0 .empty =
      ⟨bytes, "h", UInt32.ofNat check, 31, payload.size, payload.size, 0, false, .empty, .stored⟩ := by
    have fresh : Checksum.extend 0 (payload.extract 0 0) = 0 := by
      rw [ByteArray.extract_same]
      rfl
    have unfinished : decide (payload.size ≤ 0) = false := decide_eq_false (not_le.mpr some)
    simp only [storedStream, fresh, unfinished, sound, Nat.sub_zero, Nat.add_zero]
  rw [stream]
  unfold openEntry
  rw [show medium.refuses (storedListing check payload.size).offset = none from refuses_zero medium]
  simp only [show (storedListing check payload.size).offset.toNat = 0 from rfl]
  rw [if_neg long, mark, nameSize, nameEnd, extraSize, dataStart, name, flags, text]
  simp only [plain, same, room, Bool.not_true, Bool.false_eq_true, ↓reduceIte]
  rfl

theorem opens_storedArchive {payload : ByteArray} (some : 0 < payload.size)
    (fits : 31 + payload.size < 256 ^ 4) (medium : Medium) :
    ∃ directory entry, readDirectory medium (storedArchive payload) = .ok directory ∧
      directory.entries = [entry] ∧ LiesIn payload (storedArchive payload) 31 ∧
      ∀ shown, openEntry medium (storedArchive payload) directory 0 entry shown =
        .ok (storedStream (storedArchive payload) payload "h" 31 0 .empty) := by
  have full := size_storedArchive payload
  have sound : (Checksum.extend 0 payload).toNat < 256 ^ 4 := (Checksum.extend 0 payload).toNat_lt
  have same : Checksum.extend 0 payload = UInt32.ofNat (Checksum.extend 0 payload).toNat :=
    UInt32.ofNat_toNat.symm
  unfold storedArchive at full ⊢
  generalize (Checksum.extend 0 payload).toNat = check at full sound same ⊢
  simp only at full ⊢
  have length : (storedHeader check payload.size).toByteArray.size = 31 := by
    rw [List.size_toByteArray]
    rfl
  have header := stands_append .empty (storedHeader check payload.size)
    (payload ++ (storedTail check payload.size).toByteArray)
  have tail := stands_append ((storedHeader check payload.size).toByteArray ++ payload)
    (storedTail check payload.size) .empty
  rw [ByteArray.empty_append, ByteArray.size_empty] at header
  rw [ByteArray.append_empty, ByteArray.append_assoc, ByteArray.size_append, length] at tail
  have lies : LiesIn payload ((storedHeader check payload.size).toByteArray ++
      (payload ++ (storedTail check payload.size).toByteArray)) 31 := by
    rw [← length]
    exact liesIn_append _ _ _
  exact ⟨_, _, readDirectory_stored tail full sound fits medium, rfl, lies,
    openEntry_stored header full same some medium⟩

theorem holds_storedArchive [Machine] {payload : ByteArray} (some : 0 < payload.size)
    (fits : 31 + payload.size < 256 ^ 4) : Tile.Holds (storedArchive payload) payload := by
  obtain ⟨directory, entry, read, only, lies, opened⟩ := opens_storedArchive some fits (.file Machine.largestFile)
  exact ⟨directory, entry, [], _, read, only, opened _, yields_storedStream lies "h"⟩

end Elevation.Archive
