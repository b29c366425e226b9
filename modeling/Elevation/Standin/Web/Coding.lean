import Elevation.Archive.Bytes
import Elevation.Archive.Inflate
import Elevation.Text.Blank

/-!
Codings in which the body of a web answer may be packed.

Deflated data stands in a frame: a header in front of it, and behind it a check by which damage is
found. Bodies arrive in pieces, so what a body unpacks to is looked at again with every piece; a
body that ends too early unpacks to what is there, and bytes behind the end are left alone.
-/
namespace Elevation.Standin.Coding

open Archive

inductive Fault where
  | damaged (reason : String)
  /-- The data were packed with a dictionary, which nobody has. -/
  | dictionary
  deriving DecidableEq, Repr

def Fault.message : Fault → String
  | .damaged reason => "Error -3 while decompressing data: " ++ reason
  | .dictionary => "Error 2 while decompressing data"

/-- Why a frame cannot be read on: its bytes are not there yet, or they are wrong. -/
inductive Stop where
  | starved
  | fault (fault : Fault)

def need (bytes : ByteArray) (count : Nat) : Except Stop Unit :=
  if count ≤ bytes.size then .ok () else .error .starved

def require (holds : Bool) (reason : String) : Except Stop Unit :=
  if holds then .ok () else .error (.fault (.damaged reason))

/-! ### Frames -/

inductive Frame where
  /-- A header with optional members, and two checks of four bytes at the end. -/
  | gzip
  /-- A header of two bytes, and one check of four bytes at the end. -/
  | zlib
  | bare
  deriving DecidableEq, Repr

def afterText (bytes : ByteArray) (place : Nat) : Except Stop Nat :=
  match (List.range' place (bytes.size - place)).find? (byteAt bytes · = 0) with
  | some stop => .ok (stop + 1)
  | none => .error .starved

def afterMember (present : Bool) (after : Nat → Except Stop Nat) (place : Nat) : Except Stop Nat :=
  if present then after place else .ok place

def afterExtra (bytes : ByteArray) (place : Nat) : Except Stop Nat := do
  need bytes (place + 2)
  let stop := place + 2 + word16 bytes place
  need bytes stop
  .ok stop

def afterHeaderCheck (bytes : ByteArray) (place : Nat) : Except Stop Nat := do
  need bytes (place + 2)
  let check := (Checksum.extend 0 (bytes.extract 0 place)).toNat
  require (word16 bytes place = check % 0x10000) "header crc mismatch"
  .ok (place + 2)

def gzipStart (bytes : ByteArray) : Except Stop Nat := do
  need bytes 2
  require (word16 bytes 0 = 0x8b1f) "incorrect header check"
  need bytes 4
  let flags := byteAt bytes 3
  require (byteAt bytes 2 = 8) "unknown compression method"
  require (flags < 0x20) "unknown header flags set"
  need bytes 10
  let place ← afterMember (flagSet flags 2) (afterExtra bytes) 10
  let place ← afterMember (flagSet flags 3) (afterText bytes) place
  let place ← afterMember (flagSet flags 4) (afterText bytes) place
  afterMember (flagSet flags 1) (afterHeaderCheck bytes) place

def zlibStart (bytes : ByteArray) : Except Stop Nat := do
  need bytes 2
  let first := byteAt bytes 0
  let second := byteAt bytes 1
  require ((256 * first + second) % 31 = 0) "incorrect header check"
  require (first % 16 = 8) "unknown compression method"
  require (first / 16 < 8) "invalid window size"
  if flagSet second 5 then do
    need bytes 6
    .error (.fault .dictionary)
  else .ok 2

def Frame.start : Frame → ByteArray → Except Stop Nat
  | .gzip, bytes => gzipStart bytes
  | .zlib, bytes => zlibStart bytes
  | .bare, _ => .ok 0

/-- The sum of the data and the sum of its growing sums, both modulo the greatest prime below
65536. -/
def sums (data : ByteArray) : Nat × Nat :=
  data.foldl (fun (plain, grown) byte =>
    let plain := (plain + byte.toNat) % 65521
    (plain, (grown + plain) % 65521)) (1, 0)

def bigEndian32 (bytes : ByteArray) (place : Nat) : Nat :=
  (List.range 4).foldl (fun value offset => 256 * value + byteAt bytes (place + offset)) 0

def Frame.checkEnd (bytes : ByteArray) (place : Nat) (data : ByteArray) : Frame → Except Stop Unit
  | .gzip => do
    need bytes (place + 4)
    require (word32 bytes place = (Checksum.extend 0 data).toNat) "incorrect data check"
    need bytes (place + 8)
    require (word32 bytes (place + 4) = data.size % 0x100000000) "incorrect length check"
  | .zlib => do
    need bytes (place + 4)
    let (plain, grown) := sums data
    require (bigEndian32 bytes place = 0x10000 * grown + plain) "incorrect data check"
  | .bare => .ok ()

def mostExpansion : Nat := 1032

def Frame.unpack (frame : Frame) (bytes : ByteArray) : Except Fault ByteArray :=
  match frame.start bytes with
  | .error .starved => .ok .empty
  | .error (.fault fault) => .error fault
  | .ok start =>
    let room := mostExpansion * (bytes.size + 1)
    match Inflate.advance bytes bytes.size room (.start (8 * start)) with
    | (_, .damaged reason) => .error (.damaged reason)
    | (state, .finished) =>
      match frame.checkEnd bytes ((state.place + 7) / 8) state.out with
      | .error (.fault fault) => .error fault
      | _ => .ok state.out
    | (state, _) => .ok state.out

/-! ### Bodies in pieces -/

/-- A coding that is being taken back: the packed bytes so far, and the number of bytes that they
gave. -/
structure Unpacking where
  frame : Frame
  started : Bool
  packed : ByteArray
  given : Nat

def Unpacking.start (frame : Frame) : Unpacking := ⟨frame, false, .empty, 0⟩

/-- The frame in which data are to be read of which this is the first piece: some leave out the
frame of two bytes and four. -/
def Frame.ofFirst (frame : Frame) (piece : ByteArray) : Frame :=
  match frame, frame.unpack piece with
  | .zlib, .error _ => .bare
  | frame, _ => frame

def Unpacking.feed (unpacking : Unpacking) (piece : ByteArray) :
    Except Fault (ByteArray × Unpacking) :=
  let packed := unpacking.packed ++ piece
  let frame := if unpacking.started then unpacking.frame else unpacking.frame.ofFirst piece
  (frame.unpack packed).map fun data =>
    (data.extract unpacking.given data.size, ⟨frame, true, packed, data.size⟩)

/-- Takes several codings back, each one feeding the next. -/
def feedAll : List Unpacking → ByteArray → Except Fault (ByteArray × List Unpacking)
  | [], piece => .ok (piece, [])
  | unpacking :: rest, piece => do
    let (data, unpacking) ← unpacking.feed piece
    let (data, rest) ← feedAll rest data
    .ok (data, unpacking :: rest)

/-- What the pieces of a body unpack to, up to a piece that is damaged. -/
def decodeFrom : List Unpacking → (out : ByteArray) → List ByteArray → ByteArray × Option Fault
  | _, out, [] => (out, none)
  | unpackings, out, piece :: rest =>
    match feedAll unpackings piece with
    | .ok (data, unpackings) => decodeFrom unpackings (out ++ data) rest
    | .error fault => (out, some fault)

/-- The frame of a coding by its name. Codings that nobody knows are taken for none. -/
def Frame.ofName? (name : String) : Option Frame :=
  [("gzip", .gzip), ("deflate", .zlib)].lookup
    (String.ofList ((Text.trim name.toList).map Char.toLower))

/-- Decodes a body that was packed in the codings that some fields name, the last one having been
applied last. -/
def decode (fields : List String) (pieces : List ByteArray) : ByteArray × Option Fault :=
  let frames := (fields.flatMap (·.splitOn ",")).filterMap Frame.ofName?
  decodeFrom (frames.reverse.map .start) .empty (pieces.filter fun piece => !piece.isEmpty)

end Elevation.Standin.Coding
