import Elevation.Archive.Bzip2
import Elevation.Archive.Directory
import Elevation.Archive.Inflate
import Elevation.Archive.Lzma

/-!
Reading the data of an entry piece by piece.

A stream hands out at most as many bytes as asked for. It fetches packed data in pieces of at least
4096 bytes, unpacks ahead by as much, never hands out more than the entry's size, and compares the
checksum as soon as it has reached the end.
-/
namespace Elevation.Archive

/-- Packings that are unpacked anew with every piece that is fetched. -/
inductive Packing where
  | blocks
  | decisions

def Packing.unpack (packing : Packing) (bytes : ByteArray) : Except Fault Unpacked :=
  match packing with
  | .blocks => (Bzip2.unpack bytes).mapError fun halt => .badBlocks halt.reason
  | .decisions => (Lzma.unpack bytes).mapError fun halt => .badDecisions halt.reason

inductive Unpacker where
  | stored
  /-- `held` of the fetched bytes have not been taken up yet. -/
  | inflating (state : Inflate.State) (held : Nat)
  /-- The packed bytes from `start` on gave `given` bytes so far. -/
  | anew (packing : Packing) (start given : Nat)

structure Stream where
  bytes : ByteArray
  name : String
  expectedCheck : UInt32
  /-- Packed bytes stand before `fetched`, `packedLeft` more of them are still to be fetched. -/
  fetched : Nat
  packedLeft : Nat
  /-- Bytes of the entry that were not unpacked yet. -/
  left : Nat
  check : UInt32
  ended : Bool
  /-- Bytes that were unpacked but not handed out yet. -/
  ahead : ByteArray
  unpacker : Unpacker

/-! ### Opening -/

def methodNames : List (Nat × String) := [(0, "store"), (1, "shrink"), (2, "reduce"), (3, "reduce"),
  (4, "reduce"), (5, "reduce"), (6, "implode"), (7, "tokenize"), (8, "deflate"), (9, "deflate64"),
  (10, "implode"), (12, "bzip2"), (14, "lzma"), (18, "terse"), (19, "lz77"), (97, "wavpack"),
  (98, "ppmd")]

def typeLetter (mode : Nat) : Char :=
  match mode / 4096 % 16 with
  | 10 => 'l' | 8 => '-' | 6 => 'b' | 4 => 'd' | 2 => 'c' | 1 => 'p' | 12 => 's' | _ => '?'

def modeLetters (bits : Nat) (special : Bool) (letter : Char) : List Char :=
  let execute := bits % 2 = 1
  [if bits / 4 % 2 = 1 then 'r' else '-', if bits / 2 % 2 = 1 then 'w' else '-',
    if special then (if execute then letter else letter.toUpper) else if execute then 'x' else '-']

def modeText (mode : Nat) : String :=
  String.ofList (typeLetter mode :: modeLetters (mode / 64 % 8) (flagSet mode 11) 's'
    ++ modeLetters (mode / 8 % 8) (flagSet mode 10) 's'
    ++ modeLetters (mode % 8) (flagSet mode 9) 't')

def Entry.describe (entry : Entry) : String :=
  let high := entry.attributes / 65536
  let low := entry.attributes % 65536
  let isFolder := entry.name.toList.getLast? = some '/'
  let part (shown : Bool) (text : String) : String := if shown then text else ""
  "<ZipInfo filename=" ++ Text.quoted entry.name
    ++ part (entry.method ≠ 0)
      (" compress_type=" ++ (methodNames.lookup entry.method).getD (toString entry.method))
    ++ part (high ≠ 0) (" filemode=" ++ Text.quoted (modeText high))
    ++ part (low ≠ 0) (" external_attr=0x" ++ String.ofList (Nat.toDigits 16 low))
    ++ part (!isFolder || entry.size ≠ 0) (" file_size=" ++ toString entry.size)
    ++ part ((!isFolder || entry.packedSize ≠ 0) &&
        (entry.method ≠ 0 || entry.size ≠ entry.packedSize))
      (" compress_size=" ++ toString entry.packedSize)
    ++ ">"

def encryptedFlag : Nat := 0
def patchedFlag : Nat := 5
def strongEncryptionFlag : Nat := 6

def Unpacker.start? (method start : Nat) : Option Unpacker :=
  match method with
  | 0 => some .stored
  | 8 => some (.inflating (.start (8 * start)) 0)
  | 12 => some (.anew .blocks start 0)
  | 14 => some (.anew .decisions start 0)
  | _ => none

/-- The entry at `place` of the directory as a stream; `shown` is what an error calls it. -/
def openEntry (medium : Medium) (bytes : ByteArray) (directory : Directory) (place : Nat)
    (entry : Entry) (shown : String) : Except Fault Stream :=
  match medium.refuses entry.offset with
  | some fault => .error fault
  | none =>
    let start := entry.offset.toNat
    if bytes.size < start + headerBytes then .error .truncatedHeader
    else if !hasMark bytes start headerMark then .error .badHeaderMark
    else
      let nameEnd := min bytes.size (start + headerBytes + word16 bytes (start + 26))
      let dataStart := min bytes.size (nameEnd + word16 bytes (start + 28))
      let raw := (slice bytes (start + headerBytes) nameEnd).data.toList
      if flagSet entry.flags patchedFlag then .error .patched
      else if flagSet entry.flags strongEncryptionFlag then .error .strongEncryption
      else
        match nameText (word16 bytes (start + 6)) raw with
        | .error fault => .error fault
        | .ok name =>
          if name ≠ entry.rawName then .error (.nameDiffers entry.rawName raw)
          else if directory.endOf place entry < (dataStart + entry.packedSize : Nat) then
            .error (.overlapped entry.rawName)
          else if flagSet entry.flags encryptedFlag then .error (.encrypted shown)
          else
            match Unpacker.start? entry.method dataStart with
            | none => .error .unsupportedMethod
            | some unpacker =>
              .ok
                { bytes := bytes
                  name := entry.name
                  expectedCheck := UInt32.ofNat entry.check
                  fetched := dataStart
                  packedLeft := entry.packedSize
                  left := entry.size
                  check := 0
                  ended := false
                  ahead := .empty
                  unpacker := unpacker }

/-! ### Reading -/

def leastPiece : Nat := 4096

def Stream.pieceSize (stream : Stream) (count : Nat) : Except Fault Nat :=
  if stream.packedLeft = 0 then .ok 0
  else
    let present := stream.bytes.size - stream.fetched
    let piece := min (min (max count leastPiece) stream.packedLeft) present
    if piece = 0 then .error .endOfData else .ok piece

/-- Takes `data` off the entry and compares the checksum at its end. -/
def Stream.account (stream : Stream) (data : ByteArray) (ended : Bool) (unpacker : Unpacker) :
    Except Fault (ByteArray × Stream) :=
  let data := if stream.left < data.size then data.extract 0 stream.left else data
  let left := stream.left - data.size
  let ended := ended || left = 0
  let check := Checksum.extend stream.check data
  if ended && check ≠ stream.expectedCheck then .error (.checksum stream.name)
  else
    .ok (data, { stream with left := left, ended := ended, check := check, unpacker := unpacker })

def Stream.unpack (stream : Stream) (count : Nat) : Except Fault (ByteArray × Stream) := do
  match stream.unpacker with
  | .stored =>
    let piece ← stream.pieceSize count
    let data := stream.bytes.extract stream.fetched (stream.fetched + piece)
    let packedLeft := stream.packedLeft - piece
    let stream := { stream with fetched := stream.fetched + piece, packedLeft := packedLeft }
    stream.account data (packedLeft = 0) .stored
  | .inflating state held =>
    let piece ← if held < count then stream.pieceSize (count - held) else .ok 0
    let fetched := stream.fetched + piece
    let packedLeft := stream.packedLeft - piece
    let before := state.out.size
    let (state, status) := Inflate.advance stream.bytes fetched (max count leastPiece) state
    if let .damaged reason := status then throw (.badData reason)
    let held := state.untouched status fetched
    let ended := status = .finished || (packedLeft = 0 && held = 0)
    let state := if ended then (Inflate.advance stream.bytes fetched stream.left state).1 else state
    let data := state.out.extract before state.out.size
    let stream := { stream with fetched := fetched, packedLeft := packedLeft }
    stream.account data ended (.inflating state held)
  | .anew packing start given =>
    let piece ← stream.pieceSize count
    let fetched := stream.fetched + piece
    let packedLeft := stream.packedLeft - piece
    let unpacked ← packing.unpack (stream.bytes.extract start fetched)
    let size := unpacked.data.size
    let stream := { stream with fetched := fetched, packedLeft := packedLeft }
    stream.account (unpacked.data.extract given size) (unpacked.ended || packedLeft = 0)
      (.anew packing start size)

/-- Unpacks until `count` bytes are there or the entry ends; what exceeds them waits. -/
def Stream.gather : (steps count : Nat) → (taken : ByteArray) → Stream →
    Except Fault (ByteArray × Stream)
  | 0, _, taken, stream => .ok (taken, stream)
  | steps + 1, count, taken, stream =>
    if count = 0 || stream.ended then .ok (taken, stream)
    else
      match stream.unpack count with
      | .error fault => .error fault
      | .ok (data, stream) =>
        if count < data.size then
          .ok (taken ++ data.extract 0 count, { stream with ahead := data.extract count data.size })
        else gather steps (count - data.size) (taken ++ data) stream

/-- At most `count` bytes; fewer only at the end of the entry. -/
def Stream.read (stream : Stream) (count : Nat) : Except Fault (ByteArray × Stream) :=
  if count < stream.ahead.size then
    .ok (stream.ahead.extract 0 count,
      { stream with ahead := stream.ahead.extract count stream.ahead.size })
  else
    let drained : Stream := { stream with ahead := .empty }
    drained.gather (stream.bytes.size + count + 2) (count - stream.ahead.size) stream.ahead

/-- A count that no entry reaches, asked for when everything is wanted at once. -/
def wholeEntry : Nat := 0x7fffffff

def Stream.readAll (stream : Stream) : Except Fault ByteArray :=
  let drained : Stream := { stream with ahead := .empty }
  (drained.gather (stream.bytes.size + 2) wholeEntry stream.ahead).map Prod.fst

end Elevation.Archive
