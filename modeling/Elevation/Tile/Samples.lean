import Elevation.Archive.Stream
import Elevation.Failure

/-!
The samples of a tile, from the bytes of its archive.

A sample takes two bytes, high byte first, and is signed. A height outside the plausible band is no
height: it becomes the void mark. The number of bytes has to be exactly right; they are collected
from any reader that hands them out in pieces.
-/
namespace Elevation

def mostCountable : Nat := 0x7fffffffffffffff

/-- What the program cannot know of the machine that it runs on: how many bytes can be set aside for one
tile, and the size of the largest file. There is room for tiles with up to 50000 samples a side. -/
class Machine where
  mostReserved : Nat
  largestFile : Nat
  ample : 2 * (50000 * 50000) ≤ mostReserved
  counted : mostReserved ≤ mostCountable

namespace Tile

def voidHeight : Int := -32768

def lowestHeight : Int := -1000
def highestHeight : Int := 10000

def isPlausible (height : Int) : Bool := lowestHeight ≤ height && height ≤ highestHeight

/-- A height outside the plausible band turns into the void mark. -/
def maskHeight (height : Int) : Int := if isPlausible height then height else voidHeight

def mask (samples : Array Int) : Array Int × Nat :=
  (samples.map maskHeight,
    samples.foldl (fun count x => if isPlausible x then count else count + 1) 0)

/-- The signed number that two bytes write, high byte first. -/
def sampleOf (high low : UInt8) : Int :=
  let value := 256 * high.toNat + low.toNat
  if value < 32768 then value else (value : Int) - 65536

def samplesOf (bytes : ByteArray) : Array Int :=
  Array.ofFn fun i : Fin (bytes.size / 2) =>
    sampleOf (bytes.get (2 * i.val) (by omega)) (bytes.get (2 * i.val + 1) (by omega))

/-! ### Collecting the bytes -/

def readSize : Nat := 65536

/-- A source of bytes that is asked for a number of them and hands out at most that many; none
at all means that it has come to its end. -/
abbrev Reader (ε σ : Type) := Nat → σ → Except ε (ByteArray × σ)

/-- Reads until `expected` bytes are there or the reader ends. -/
def collect {ε σ : Type} (reader : Reader ε σ) (expected : Nat) :
    (steps : Nat) → ByteArray → σ → Except ε (ByteArray × σ)
  | 0, taken, source => .ok (taken, source)
  | steps + 1, taken, source =>
    if expected ≤ taken.size then .ok (taken, source)
    else
      match reader (min readSize (expected - taken.size)) source with
      | .error fault => .error fault
      | .ok (piece, source) =>
        if piece.isEmpty then .ok (taken, source)
        else collect reader expected steps (taken ++ piece) source

/-- What reading came to: the right number of bytes, too few, or more than expected. -/
inductive Payload where
  | exact (bytes : ByteArray)
  | short (filled : Nat)
  | long

/-- Collects `expected` bytes and looks whether another one follows. -/
def readPayload {ε σ : Type} (reader : Reader ε σ) (expected : Nat) (source : σ) :
    Except ε Payload :=
  match collect reader expected expected .empty source with
  | .error fault => .error fault
  | .ok (bytes, source) =>
    if bytes.size < expected then .ok (.short bytes.size)
    else
      match reader 1 source with
      | .error fault => .error fault
      | .ok (next, _) => .ok (if next.isEmpty then .exact bytes else .long)

/-! ### Decoding an archive -/

def payloadSize (width : Int) : Nat := 2 * (width.natAbs * width.natAbs)

/-- Damage to an archive, in whatever part, is reported as an unreadable archive, and so is what the
file system refuses; requests that the reader does not support are reported as they are, and so is a
path for which no file system is asked. -/
def archiveFailure (path : String) (fault : Archive.Fault) : Failure :=
  match fault.family with
  | .damage | .data | .endOfData | .file => .unreadableArchive path fault
  | .wrongText | .unsupported | .password | .place | .size | .decisions => .archive fault

section

variable [Machine]

def roomFailure? (size : Nat) : Option Failure :=
  if mostCountable < size then some .tileUncountable
  else if Machine.mostReserved < size then some .tileTooLarge
  else none

def readEntryPayload (bytes : ByteArray) (directory : Archive.Directory) (entry : Archive.Entry)
    (expected : Nat) : Except Archive.Fault Payload :=
  match Archive.openEntry (.file Machine.largestFile) bytes directory 0 entry entry.describe with
  | .error fault => .error fault
  | .ok stream => readPayload (fun count stream => stream.read count) expected stream

/-- What the first entry of an archive holds; `contents` is what reading its file gave. -/
def archivePayload (path : String) (contents : Except Disk.Refusal ByteArray) (width : Int) :
    Except Failure Payload :=
  match contents with
  | .error refusal =>
    .error (if refusal.isNumbered then archiveFailure path (.refused refusal) else .refused refusal)
  | .ok bytes =>
    match Archive.readDirectory (.file Machine.largestFile) bytes with
    | .error fault => .error (archiveFailure path fault)
    | .ok directory =>
      match directory.entries with
      | [] => .error (.emptyArchive path)
      | entry :: _ =>
        (readEntryPayload bytes directory entry (payloadSize width)).mapError (archiveFailure path)

/-- The samples of an archive, and how many of them became voids. Room for them is set aside
before the archive is looked at. -/
def decode (path : String) (contents : Except Disk.Refusal ByteArray) (width : Int) :
    Except Failure (Array Int × Nat) :=
  match roomFailure? (payloadSize width) with
  | some failure => .error failure
  | none =>
    match archivePayload path contents width with
    | .error failure => .error failure
    | .ok (.short filled) => .error (.shortArchive path filled (payloadSize width))
    | .ok .long => .error (.longArchive path (payloadSize width))
    | .ok (.exact bytes) => .ok (mask (samplesOf bytes))

end

end Tile

end Elevation
