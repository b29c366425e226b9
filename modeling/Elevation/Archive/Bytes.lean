/-!
Reading fixed-width numbers from bytes, and the check that archives keep of each entry.

Archives write their numbers low byte first. Reads beyond the end see zeros, so a reader first
checks that enough bytes are there.
-/
namespace Elevation.Archive

def byteAt (bytes : ByteArray) (place : Nat) : Nat :=
  if inside : place < bytes.size then bytes[place].toNat else 0

def littleEndian (bytes : ByteArray) (place : Nat) : (count : Nat) → Nat
  | 0 => 0
  | count + 1 => byteAt bytes place + 256 * littleEndian bytes (place + 1) count

def word16 (bytes : ByteArray) (place : Nat) : Nat := littleEndian bytes place 2

def word32 (bytes : ByteArray) (place : Nat) : Nat := littleEndian bytes place 4

def word64 (bytes : ByteArray) (place : Nat) : Nat := littleEndian bytes place 8

def flagSet (flags bit : Nat) : Bool := flags.testBit bit

def slice (bytes : ByteArray) (start stop : Nat) : ByteArray := bytes.extract start stop

def hasMark (bytes : ByteArray) (place : Nat) (mark : List Nat) : Bool :=
  place + mark.length ≤ bytes.size &&
    (mark.zipIdx.all fun (byte, offset) => byteAt bytes (place + offset) == byte)

/-- Writes `count` bytes, each a copy of the byte `distance` places back. -/
def copyBack (distance : Nat) : (count : Nat) → ByteArray → ByteArray
  | 0, out => out
  | count + 1, out =>
    let byte := if inside : out.size - distance < out.size then out[out.size - distance] else 0
    copyBack distance count (out.push byte)

/-! ### The check of an entry

The 32-bit cyclic redundancy check is the remainder of the data under the reflected polynomial
`0xedb88320`; a table holds the remainder of every single byte. -/

namespace Checksum

/-- One bit of division: shift, and subtract the polynomial when a one falls out. -/
def shiftBit (value : UInt32) : UInt32 :=
  if value &&& 1 = 1 then (value >>> 1) ^^^ 0xedb88320 else value >>> 1

def ofByte (byte : Nat) : UInt32 := Nat.repeat shiftBit 8 (UInt32.ofNat byte)

def table : Array UInt32 := (Array.range 256).map ofByte

def step (value : UInt32) (byte : UInt8) : UInt32 :=
  table.getD ((value ^^^ byte.toUInt32) &&& 0xff).toNat 0 ^^^ (value >>> 8)

def extend (check : UInt32) (bytes : ByteArray) : UInt32 :=
  bytes.foldl step (check ^^^ 0xffffffff) ^^^ 0xffffffff

end Checksum

end Elevation.Archive
