import Elevation.Archive.Stream
import Elevation.Proofs.Outcome

/-!
What can be wrong with an archive. Nearly every fault is damage or a refusal of the file system. The
others are requests that the reader does not support, and each of them stands in the archive: in the
directory, in its first entry or in the header of that entry.
-/

namespace Elevation.Archive

variable {bytes data extra : ByteArray} {medium : Medium} {record : EndRecord} {entry : Entry}
  {place start steps total count : Nat} {shown : String} {fault : Fault} {stream : Stream}

/-- Damage to an archive, or a refusal of the file system. -/
def Fault.IsDamage (fault : Fault) : Prop :=
  match fault.family with
  | .damage | .data | .endOfData | .file => True
  | _ => False

theorem nameText_error {flags : Nat} {raw : List UInt8} (failed : nameText flags raw = .error fault) :
    flagSet flags unicodeFlag = true ∧
      ∃ reason, Text.ofUtf8 raw = .error reason ∧ fault = .unreadableName reason := by
  unfold nameText at failed
  split_ifs at failed with marked
  obtain ⟨reason, read, rfl⟩ := mapError_eq_error.mp (map_eq_error.mp failed)
  exact ⟨marked, reason, read, rfl⟩

/-! ### The directory -/

theorem isDamage_of_endRecordAt (failed : endRecordAt medium bytes place = .error fault) :
    fault.IsDamage := by
  unfold endRecordAt widened at failed
  simp only at failed
  split_ifs at failed
  -- The class of a fault is a matter of its name, so there is nothing to prove once it is known.
  · cases failed
    exact trivial
  · cases failed
    exact trivial

theorem isDamage_of_endRecord? (failed : endRecord? medium bytes = .error fault) : fault.IsDamage := by
  unfold endRecord? at failed
  simp only at failed
  split_ifs at failed
  · exact isDamage_of_endRecordAt (map_eq_error.mp failed)
  · split at failed
    next => cases failed
    next found _ =>
      split_ifs at failed
      exact isDamage_of_endRecordAt (map_eq_error.mp failed)

theorem isDamage_of_widenFrom (failed : entry.widenFrom extra = .error fault) : fault.IsDamage := by
  have missing (field : String) : (Fault.missingWideField field).IsDamage := trivial
  unfold Entry.widenFrom at failed
  simp only at failed
  split at failed
  next short =>
    cases failed
    split_ifs at short
    cases short
    exact missing _
  next =>
    split at failed
    next short =>
      cases failed
      split_ifs at short
      cases short
      exact missing _
    next =>
      split_ifs at failed
      cases failed
      exact missing _

theorem isDamage_of_readExtra (failed : entry.readExtra extra steps place = .error fault) :
    fault.IsDamage := by
  induction steps generalizing place entry with
  | zero => cases failed
  | succ steps ih =>
    rw [Entry.readExtra] at failed
    simp only at failed
    split_ifs at failed
    · cases failed
      exact trivial
    · split at failed
      next widened =>
        cases failed
        exact isDamage_of_widenFrom widened
      next => exact ih failed
    · exact ih failed

/-- The name of an entry as it lies in the directory. -/
def listedName (data : ByteArray) (place : Nat) : List UInt8 :=
  (slice data (place + entryBytes)
    (min data.size (place + entryBytes + word16 data (place + 28)))).data.toList

/-- What an entry of the directory may ask for in vain. -/
inductive Unlisted (data : ByteArray) (place : Nat) : Fault → Prop where
  | version : newestVersion < word16 data (place + 6) % 256 →
      Unlisted data place (.version (word16 data (place + 6) % 256))
  | name {reason : Text.Utf8Fault} : flagSet (word16 data (place + 8)) unicodeFlag = true →
      Text.ofUtf8 (listedName data place) = .error reason →
      Unlisted data place (.unreadableName reason)

theorem readEntry_error (failed : readEntry data place = .error fault) :
    fault.IsDamage ∨ Unlisted data place fault := by
  unfold readEntry at failed
  obtain ⟨-, rfl⟩ | ⟨-, failed⟩ := ite_eq_error.mp failed
  · exact Or.inl trivial
  obtain ⟨-, rfl⟩ | ⟨-, failed⟩ := ite_eq_error.mp failed
  · exact Or.inl trivial
  simp only at failed
  split at failed
  next unread =>
    cases failed
    obtain ⟨marked, reason, read, rfl⟩ := nameText_error unread
    exact Or.inr (.name marked read)
  next =>
    obtain ⟨newer, rfl⟩ | ⟨-, failed⟩ := ite_eq_error.mp failed
    · exact Or.inr (.version newer)
    · exact Or.inl (isDamage_of_readExtra (map_eq_error.mp failed))

theorem readEntries_error {size : Nat} (failed : readEntries data size steps place total = .error fault) :
    fault.IsDamage ∨ ∃ place, Unlisted data place fault := by
  induction steps generalizing place total with
  | zero => cases failed
  | succ steps ih =>
    rw [readEntries] at failed
    split_ifs at failed
    split at failed
    next refused =>
      cases failed
      exact (readEntry_error refused).imp_right fun unlisted => ⟨place, unlisted⟩
    next => exact ih (map_eq_error.mp failed)

def EndRecord.listing (record : EndRecord) (bytes : ByteArray) : ByteArray :=
  let start : Int := (record.place : Int) - record.extension - record.size
  slice bytes start.toNat (start.toNat + record.size)

theorem readDirectory_error (failed : readDirectory medium bytes = .error fault) :
    fault.IsDamage ∨ ∃ record place, endRecord? medium bytes = .ok (some record) ∧
      Unlisted (record.listing bytes) place fault := by
  unfold readDirectory at failed
  split at failed
  next =>
    cases failed
    exact Or.inl trivial
  next =>
    cases failed
    exact Or.inl trivial
  next refused =>
    cases failed
    exact Or.inl (isDamage_of_endRecord? refused)
  next record found =>
    have start : (record.offset : Int) +
        ((record.place : Int) - record.extension - record.size - record.offset) =
          (record.place : Int) - record.extension - record.size := by omega
    simp only [start] at failed
    obtain ⟨-, rfl⟩ | ⟨-, failed⟩ := ite_eq_error.mp failed
    · exact Or.inl trivial
    · obtain damage | ⟨place, unlisted⟩ := readEntries_error (map_eq_error.mp failed)
      · exact Or.inl damage
      · exact Or.inr ⟨record, place, found, unlisted⟩

/-! ### Opening an entry -/

def headerName (bytes : ByteArray) (start : Nat) : List UInt8 :=
  (slice bytes (start + headerBytes)
    (min bytes.size (start + headerBytes + word16 bytes (start + 26)))).data.toList

/-- What an entry or its header may ask for in vain when it is opened. -/
inductive Unopened (bytes : ByteArray) (entry : Entry) (shown : String) : Fault → Prop where
  | place : entry.offset < -farthestPlace ∨ farthestPlace ≤ entry.offset →
      Unopened bytes entry shown .placeTooFar
  | patched : flagSet entry.flags patchedFlag = true → Unopened bytes entry shown .patched
  | strongEncryption : flagSet entry.flags strongEncryptionFlag = true →
      Unopened bytes entry shown .strongEncryption
  | name {reason : Text.Utf8Fault} :
      flagSet (word16 bytes (entry.offset.toNat + 6)) unicodeFlag = true →
      Text.ofUtf8 (headerName bytes entry.offset.toNat) = .error reason →
      Unopened bytes entry shown (.unreadableName reason)
  | encrypted : flagSet entry.flags encryptedFlag = true →
      Unopened bytes entry shown (.encrypted shown)
  | method : entry.method ∉ [0, 8, 12, 14] → Unopened bytes entry shown .unsupportedMethod

theorem refuses_file_cases {largest : Nat} {offset : Int}
    (refused : Medium.refuses (.file largest) offset = some fault) :
    fault.IsDamage ∨
      fault = .placeTooFar ∧ (offset < -farthestPlace ∨ farthestPlace ≤ offset) := by
  simp only [Medium.refuses, Bool.or_eq_true, decide_eq_true_iff] at refused
  split_ifs at refused with far
  · cases refused
    exact Or.inr ⟨rfl, far⟩
  · cases refused
    exact Or.inl trivial

theorem start?_eq_none {method : Nat} (unknown : Unpacker.start? method start = none) :
    method ∉ [0, 8, 12, 14] := by
  intro known
  simp only [List.mem_cons, List.not_mem_nil, or_false] at known
  rcases known with rfl | rfl | rfl | rfl <;> cases unknown

theorem openEntry_error {largest : Nat} {directory : Directory}
    (failed : openEntry (.file largest) bytes directory place entry shown = .error fault) :
    fault.IsDamage ∨ Unopened bytes entry shown fault := by
  unfold openEntry at failed
  split at failed
  next refused =>
    cases failed
    obtain damage | ⟨rfl, far⟩ := refuses_file_cases refused
    · exact Or.inl damage
    · exact Or.inr (.place far)
  simp only at failed
  obtain ⟨-, rfl⟩ | ⟨-, failed⟩ := ite_eq_error.mp failed
  · exact Or.inl trivial
  obtain ⟨-, rfl⟩ | ⟨-, failed⟩ := ite_eq_error.mp failed
  · exact Or.inl trivial
  obtain ⟨marked, rfl⟩ | ⟨-, failed⟩ := ite_eq_error.mp failed
  · exact Or.inr (.patched marked)
  obtain ⟨marked, rfl⟩ | ⟨-, failed⟩ := ite_eq_error.mp failed
  · exact Or.inr (.strongEncryption marked)
  split at failed
  next unread =>
    cases failed
    obtain ⟨marked, reason, read, rfl⟩ := nameText_error unread
    exact Or.inr (.name marked read)
  obtain ⟨-, rfl⟩ | ⟨-, failed⟩ := ite_eq_error.mp failed
  · exact Or.inl trivial
  obtain ⟨-, rfl⟩ | ⟨-, failed⟩ := ite_eq_error.mp failed
  · exact Or.inl trivial
  obtain ⟨marked, rfl⟩ | ⟨-, failed⟩ := ite_eq_error.mp failed
  · exact Or.inr (.encrypted marked)
  split at failed
  next unknown =>
    cases failed
    exact Or.inr (.method (start?_eq_none unknown))
  next => cases failed

/-! ### Reading an entry -/

def Packing.method : Packing → Nat
  | .blocks => 12
  | .decisions => 14

def Unpacker.method : Unpacker → Nat
  | .stored => 0
  | .inflating .. => 8
  | .anew packing .. => packing.method

theorem method_of_start? {method : Nat} {unpacker : Unpacker}
    (known : Unpacker.start? method start = some unpacker) : unpacker.method = method := by
  unfold Unpacker.start? at known
  split at known <;> cases known <;> rfl

theorem openEntry_ok {largest : Nat} {directory : Directory}
    (opened : openEntry (.file largest) bytes directory place entry shown = .ok stream) :
    stream.unpacker.method = entry.method := by
  unfold openEntry at opened
  split at opened
  next => cases opened
  simp only at opened
  obtain ⟨-, opened⟩ := ite_eq_ok.mp opened
  obtain ⟨-, opened⟩ := ite_eq_ok.mp opened
  obtain ⟨-, opened⟩ := ite_eq_ok.mp opened
  obtain ⟨-, opened⟩ := ite_eq_ok.mp opened
  split at opened
  next => cases opened
  obtain ⟨-, opened⟩ := ite_eq_ok.mp opened
  obtain ⟨-, opened⟩ := ite_eq_ok.mp opened
  obtain ⟨-, opened⟩ := ite_eq_ok.mp opened
  split at opened
  next => cases opened
  next known =>
    cases opened
    exact method_of_start? known

/-- What can be wrong with data of a packing: they are damaged, for which one packing has a class of
faults of its own. -/
def Spoils (method : Nat) (fault : Fault) : Prop :=
  fault.IsDamage ∨ method = 14 ∧ ∃ reason, fault = .badDecisions reason

/-- The packing stays what it is as long as nothing is wrong. -/
def Steady (method : Nat) (outcome : Except Fault (ByteArray × Stream)) : Prop :=
  match outcome with
  | .error fault => Spoils method fault
  | .ok (_, next) => next.unpacker.method = method

theorem spoils_of_pieceSize (failed : stream.pieceSize count = .error fault) (method : Nat) :
    Spoils method fault := by
  unfold Stream.pieceSize at failed
  simp only at failed
  split_ifs at failed
  cases failed
  exact Or.inl trivial

theorem Steady.bind {α : Type} {method : Nat} {first : Except Fault α}
    {next : α → Except Fault (ByteArray × Stream)}
    (fails : ∀ fault, first = .error fault → Spoils method fault)
    (goes : ∀ a, first = .ok a → Steady method (next a)) : Steady method (first >>= next) := by
  cases made : first with
  | error fault => exact fails fault made
  | ok a => exact goes a made

theorem steady_account (data : ByteArray) (ended : Bool) (unpacker : Unpacker) :
    Steady unpacker.method (stream.account data ended unpacker) := by
  unfold Stream.account
  generalize (if stream.left < data.size then data.extract 0 stream.left else data) = taken
  simp only
  split_ifs
  · exact Or.inl trivial
  · rfl

theorem spoils_of_unpack {packing : Packing} (failed : packing.unpack data = .error fault) :
    Spoils packing.method fault := by
  cases packing with
  | blocks =>
    obtain ⟨halt, -, rfl⟩ := mapError_eq_error.mp failed
    exact Or.inl trivial
  | decisions =>
    obtain ⟨halt, -, rfl⟩ := mapError_eq_error.mp failed
    exact Or.inr ⟨rfl, _, rfl⟩

theorem steady_unpack (stream : Stream) (count : Nat) :
    Steady stream.unpacker.method (stream.unpack count) := by
  unfold Stream.unpack
  split
  next stored =>
    rw [stored]
    apply Steady.bind
    · intro fault failed
      exact spoils_of_pieceSize failed _
    · intro piece _
      exact steady_account _ _ _
  next state held inflating =>
    rw [inflating]
    simp only
    -- Bytes that are held back may be enough, so that nothing is fetched.
    split_ifs
    all_goals
      apply Steady.bind
      · intro fault failed
        first
        | exact spoils_of_pieceSize failed _
        | cases failed
      · intro piece _
        split
        · exact Or.inl trivial
        · exact steady_account _ _ _
  next packing start given anew =>
    rw [anew]
    apply Steady.bind
    · intro fault failed
      exact spoils_of_pieceSize failed _
    · intro piece _
      apply Steady.bind
      · intro fault failed
        exact spoils_of_unpack failed
      · intro unpacked _
        exact steady_account _ _ _

theorem Steady.gather {method : Nat} (stream : Stream) (steady : stream.unpacker.method = method)
    (steps count : Nat) (taken : ByteArray) : Steady method (stream.gather steps count taken) := by
  induction steps generalizing stream count taken with
  | zero => exact steady
  | succ steps ih =>
    rw [Stream.gather]
    split_ifs
    · exact steady
    · have once := steady_unpack stream count
      rw [steady] at once
      split
      next failed =>
        rw [failed] at once
        exact once
      next data next unpacked =>
        rw [unpacked] at once
        split_ifs
        · exact once
        · exact ih next once _ _

theorem steady_read (stream : Stream) (count : Nat) :
    Steady stream.unpacker.method (stream.read count) := by
  unfold Stream.read
  split_ifs
  · rfl
  · exact .gather { stream with ahead := .empty } rfl _ _ _

end Elevation.Archive
