import Elevation.Archive.Bytes
import Elevation.Archive.PrefixCode

/-!
Unpacking of data that were sorted block by block.

Packing a block takes four steps, which are undone here from the last one to the first: long runs
of a byte are shortened; all rotations of the block are sorted, and the last byte of each is kept;
each byte is replaced by its place in a list in which the byte that came last stands in front; and
these places are written in prefix codes that take turns every fifty symbols. A block has a check
of its own, and at the end there is one of all blocks.
-/
namespace Elevation.Archive.Bzip2

def refused {α : Type} : Except Halt α := .error (.damaged "Invalid data stream")

/-! ### Bits -/

/-- The bit at a place, the highest one of a byte coming first. -/
def takeBit (bytes : ByteArray) (place : Nat) : Except Halt (Nat × Nat) :=
  if 8 * bytes.size ≤ place then .error .starved
  else .ok ((byteAt bytes (place / 8) >>> (7 - place % 8)) % 2, place + 1)

def takeBitsAfter (bytes : ByteArray) (value : Nat) :
    (count place : Nat) → Except Halt (Nat × Nat)
  | 0, place => .ok (value, place)
  | count + 1, place =>
    match takeBit bytes place with
    | .error halt => .error halt
    | .ok (bit, place) => takeBitsAfter bytes (2 * value + bit) count place

def takeBits (bytes : ByteArray) (count place : Nat) : Except Halt (Nat × Nat) :=
  takeBitsAfter bytes 0 count place

def expect (bytes : ByteArray) : List Nat → (place : Nat) → Except Halt Nat
  | [], place => .ok place
  | wanted :: rest, place =>
    match takeBits bytes 8 place with
    | .error halt => .error halt
    | .ok (found, place) => if found = wanted then expect bytes rest place else refused

def takeOnes (bytes : ByteArray) (found : Nat) : (limit place : Nat) → Except Halt (Nat × Nat)
  | 0, _ => refused
  | limit + 1, place =>
    match takeBit bytes place with
    | .error halt => .error halt
    | .ok (bit, place) =>
      if bit = 0 then .ok (found, place) else takeOnes bytes (found + 1) limit place

/-! ### The codes of a block -/

/-- The numbers below sixteen whose bits are set, the first bit standing for zero. -/
def setPlaces (flags : Nat) : List Nat := (List.range 16).filter fun i => flags.testBit (15 - i)

/-- The bytes that occur in a block, as far as they are in some groups of sixteen. -/
def takeUsed (bytes : ByteArray) : (groups : List Nat) → (place : Nat) →
    Except Halt (List UInt8 × Nat)
  | [], place => .ok ([], place)
  | group :: groups, place => do
    let (flags, place) ← takeBits bytes 16 place
    let (later, place) ← takeUsed bytes groups place
    .ok ((setPlaces flags).map (fun i => UInt8.ofNat (16 * group + i)) ++ later, place)

def moveToFront {α : Type} [Inhabited α] (place : Nat) (list : List α) : List α :=
  list.getD place default :: list.eraseIdx place

/-- Which code has its turn when, in reverse; `recent` are all codes, the one used last in front. -/
def takeTurns (bytes : ByteArray) :
    (count : Nat) → (recent turns : List Nat) → (place : Nat) → Except Halt (List Nat × Nat)
  | 0, _, turns, place => .ok (turns, place)
  | count + 1, recent, turns, place =>
    match takeOnes bytes 0 recent.length place with
    | .error halt => .error halt
    | .ok (found, place) =>
      let recent := moveToFront found recent
      takeTurns bytes count recent (recent.headD 0 :: turns) place

def greatestLength : Nat := 20

/-- The length of a symbol's code, which differs from the one before step by step. -/
def takeLength (bytes : ByteArray) : (steps length place : Nat) → Except Halt (Nat × Nat)
  | 0, _, _ => .error .starved
  | steps + 1, length, place =>
    if length = 0 ∨ greatestLength < length then refused
    else
      match takeBit bytes place with
      | .error halt => .error halt
      | .ok (0, place) => .ok (length, place)
      | .ok (_, place) =>
        match takeBit bytes place with
        | .error halt => .error halt
        | .ok (down, place) =>
          takeLength bytes steps (if down = 0 then length + 1 else length - 1) place

/-- The lengths of `count` codes, in reverse. -/
def takeLengths (bytes : ByteArray) :
    (count length : Nat) → (lengths : List Nat) → (place : Nat) → Except Halt (List Nat × Nat)
  | 0, _, lengths, place => .ok (lengths, place)
  | count + 1, length, lengths, place =>
    match takeLength bytes (8 * bytes.size + 1) length place with
    | .error halt => .error halt
    | .ok (length, place) => takeLengths bytes count length (length :: lengths) place

def takeCodes (bytes : ByteArray) (symbols : Nat) :
    (count : Nat) → (place : Nat) → Except Halt (List Code × Nat)
  | 0, place => .ok ([], place)
  | count + 1, place => do
    let (length, place) ← takeBits bytes 5 place
    let (lengths, place) ← takeLengths bytes symbols length [] place
    let (later, place) ← takeCodes bytes symbols count place
    .ok (.ofLengths greatestLength lengths.reverse :: later, place)

/-- Walks down a code one bit at a time. `first` is the lowest code of the present length, `index`
the place of its symbol, and `value` the bits read so far. -/
def walk (bytes : ByteArray) (code : Code) :
    (steps length value first index place : Nat) → Except Halt (Nat × Nat)
  | 0, _, _, _, _, place => if 8 * bytes.size ≤ place then .error .starved else refused
  | steps + 1, length, value, first, index, place =>
    match takeBit bytes place with
    | .error halt => .error halt
    | .ok (bit, place) =>
      let value := value + bit
      let count := code.counts.getD length 0
      if value < first + count then .ok (code.symbols.getD (index + (value - first)) 0, place)
      else
        walk bytes code steps (length + 1) (2 * value) (2 * (first + count)) (index + count) place

/-! ### The last bytes of the sorted rotations -/

/-- A column that is being read: the codes whose turns are still to come, the symbols left in the
present turn, the bytes with the one in front that came last, and a run of that byte which has not
been written yet. The next symbol of a run counts for `weight`. -/
structure Column where
  place : Nat
  turns : List Code
  left : Nat
  code : Code
  front : List UInt8
  run : Nat
  weight : Nat
  bytes : ByteArray

def turnLength : Nat := 50

def Column.next (source : ByteArray) (column : Column) : Except Halt (Nat × Column) :=
  let read (code : Code) (left : Nat) (turns : List Code) : Except Halt (Nat × Column) :=
    match walk source code greatestLength 1 0 0 0 column.place with
    | .error halt => .error halt
    | .ok (symbol, place) =>
      .ok (symbol, { column with place := place, turns := turns, left := left, code := code })
  match column.left, column.turns with
  | 0, [] => refused
  | 0, code :: turns => read code (turnLength - 1) turns
  | left + 1, turns => read column.code left turns

def pushRun (byte : UInt8) : (count : Nat) → ByteArray → ByteArray
  | 0, bytes => bytes
  | count + 1, bytes => pushRun byte count (bytes.push byte)

def Column.flush (column : Column) : Column :=
  { column with
    bytes := pushRun (column.front.headD 0) column.run column.bytes
    run := 0
    weight := 1 }

def mostWeight : Nat := 2 * 1024 * 1024

def takeColumn (source : ByteArray) (limit lastSymbol : Nat) :
    (steps : Nat) → Column → Except Halt (ByteArray × Nat)
  | 0, _ => .error .starved
  | steps + 1, column =>
    match column.next source with
    | .error halt => .error halt
    | .ok (symbol, column) =>
      if symbol < 2 then
        if mostWeight ≤ column.weight then refused
        else
          takeColumn source limit lastSymbol steps
            { column with
              run := column.run + (symbol + 1) * column.weight
              weight := 2 * column.weight }
      else if limit < column.bytes.size + column.run then refused
      else
        let column := column.flush
        if symbol = lastSymbol then .ok (column.bytes, column.place)
        else if limit ≤ column.bytes.size then refused
        else
          let front := moveToFront (symbol - 1) column.front
          takeColumn source limit lastSymbol steps
            { column with front := front, bytes := column.bytes.push (front.headD 0) }

/-! ### From the column to the data -/

/-- For each place in sorted order, the place in the column at which the same byte stands. -/
def successors (column : ByteArray) : Array Nat :=
  let counts := column.foldl (fun counts byte => counts.modify byte.toNat (· + 1))
    (Array.replicate 256 0)
  let (starts, _) := counts.foldl (fun (starts, sum) count => (starts.push sum, sum + count))
    ((#[] : Array Nat), 0)
  let (found, _, _) := column.foldl
    (fun (found, starts, place) byte =>
      let start := starts.getD byte.toNat 0
      (found.setIfInBounds start place, starts.modify byte.toNat (· + 1), place + 1))
    (Array.replicate column.size 0, starts, 0)
  found

def unsort (column : ByteArray) (successors : Array Nat) :
    (count place : Nat) → ByteArray → ByteArray
  | 0, _, out => out
  | count + 1, place, out =>
    unsort column successors count (successors.getD place 0)
      (out.push (UInt8.ofNat (byteAt column place)))

/-- Lengths of stretches, at the last byte but one of which the lowest bit is changed in a block
that was scrambled before it was sorted. -/
def stretches : List Nat := [
  619, 720, 127, 481, 931, 816, 813, 233, 566, 247, 985, 724, 205, 454, 863, 491, 741, 242, 949,
  214, 733, 859, 335, 708, 621, 574, 73, 654, 730, 472, 419, 436, 278, 496, 867, 210, 399, 680, 480,
  51, 878, 465, 811, 169, 869, 675, 611, 697, 867, 561, 862, 687, 507, 283, 482, 129, 807, 591, 733,
  623, 150, 238, 59, 379, 684, 877, 625, 169, 643, 105, 170, 607, 520, 932, 727, 476, 693, 425, 174,
  647, 73, 122, 335, 530, 442, 853, 695, 249, 445, 515, 909, 545, 703, 919, 874, 474, 882, 500, 594,
  612, 641, 801, 220, 162, 819, 984, 589, 513, 495, 799, 161, 604, 958, 533, 221, 400, 386, 867,
  600, 782, 382, 596, 414, 171, 516, 375, 682, 485, 911, 276, 98, 553, 163, 354, 666, 933, 424, 341,
  533, 870, 227, 730, 475, 186, 263, 647, 537, 686, 600, 224, 469, 68, 770, 919, 190, 373, 294, 822,
  808, 206, 184, 943, 795, 384, 383, 461, 404, 758, 839, 887, 715, 67, 618, 276, 204, 918, 873, 777,
  604, 560, 951, 160, 578, 722, 79, 804, 96, 409, 713, 940, 652, 934, 970, 447, 318, 353, 859, 672,
  112, 785, 645, 863, 803, 350, 139, 93, 354, 99, 820, 908, 609, 772, 154, 274, 580, 184, 79, 626,
  630, 742, 653, 282, 762, 623, 680, 81, 927, 626, 789, 125, 411, 521, 938, 300, 821, 78, 343, 175,
  128, 250, 170, 774, 972, 275, 999, 639, 495, 78, 352, 126, 857, 956, 358, 619, 580, 124, 737, 594,
  701, 612, 669, 112, 134, 694, 363, 992, 809, 743, 168, 974, 944, 375, 748, 52, 600, 747, 642, 182,
  862, 81, 344, 805, 988, 739, 511, 655, 814, 334, 249, 515, 897, 955, 664, 981, 649, 113, 974, 459,
  893, 228, 433, 837, 553, 268, 926, 240, 102, 654, 459, 51, 686, 754, 806, 760, 493, 403, 415, 394,
  687, 700, 946, 670, 656, 610, 738, 392, 760, 799, 887, 653, 978, 321, 576, 617, 626, 502, 894,
  679, 243, 440, 680, 879, 194, 572, 640, 724, 926, 56, 204, 700, 707, 151, 457, 449, 797, 195, 791,
  558, 945, 679, 297, 59, 87, 824, 713, 663, 412, 693, 342, 606, 134, 108, 571, 364, 631, 212, 174,
  643, 304, 329, 343, 97, 430, 751, 497, 314, 983, 374, 822, 928, 140, 206, 73, 263, 980, 736, 876,
  478, 430, 305, 170, 514, 364, 692, 829, 82, 855, 953, 676, 246, 369, 970, 294, 750, 807, 827, 150,
  790, 288, 923, 804, 378, 215, 828, 592, 281, 565, 555, 710, 82, 896, 831, 547, 261, 524, 462, 293,
  465, 502, 56, 661, 821, 976, 991, 658, 869, 905, 758, 745, 193, 768, 550, 608, 933, 378, 286, 215,
  979, 792, 961, 61, 688, 793, 644, 986, 403, 106, 366, 905, 644, 372, 567, 466, 434, 645, 210, 389,
  550, 919, 135, 780, 773, 635, 389, 707, 100, 626, 958, 165, 504, 920, 176, 193, 713, 857, 265,
  203, 50, 668, 108, 645, 990, 626, 197, 510, 357, 358, 850, 858, 364, 936, 638]

/-- Takes the scrambling back from byte `start` on, the stretches repeating until the end. -/
def unscramble : (steps start : Nat) → (coming : List Nat) → ByteArray → ByteArray
  | 0, _, _, bytes => bytes
  | steps + 1, start, coming, bytes =>
    let (length, coming) :=
      match coming with
      | length :: coming => (length, coming)
      | [] => (stretches.headD 0, stretches.drop 1)
    let place := start + length - 2
    if bytes.size ≤ place then bytes
    else
      unscramble steps (start + length) coming
        (bytes.set! place (UInt8.ofNat (byteAt bytes place) ^^^ 1))

/-- Data in which runs are being made long again. The last byte stands there `count` times; after
four times the next byte says how many more there are. -/
structure Runs where
  out : ByteArray
  last : UInt8
  count : Nat

def Runs.push (runs : Runs) (byte : UInt8) : Runs :=
  if runs.count = 4 then { runs with out := pushRun runs.last byte.toNat runs.out, count := 0 }
  else
    { out := runs.out.push byte
      last := byte
      count := if runs.count ≠ 0 ∧ byte = runs.last then runs.count + 1 else 1 }

/-! ### Checks -/

def remainder (byte : Nat) : UInt32 :=
  let shiftBit (value : UInt32) : UInt32 :=
    if value < 0x80000000 then value <<< 1 else (value <<< 1) ^^^ 0x04c11db7
  Nat.repeat shiftBit 8 (UInt32.ofNat byte <<< 24)

def remainders : Array UInt32 := (Array.range 256).map remainder

def checkStep (value : UInt32) (byte : UInt8) : UInt32 :=
  remainders.getD ((value >>> 24) ^^^ byte.toUInt32).toNat 0 ^^^ (value <<< 8)

def checkOf (data : ByteArray) : UInt32 := data.foldl checkStep 0xffffffff ^^^ 0xffffffff

def continueCheck (total check : UInt32) : UInt32 := ((total <<< 1) ||| (total >>> 31)) ^^^ check

/-! ### Blocks -/

def takeBlock (source : ByteArray) (limit place : Nat) :
    Except Halt (ByteArray × UInt32 × Nat) := do
  let (check, place) ← takeBits source 32 place
  let (scrambled, place) ← takeBit source place
  let (origin, place) ← takeBits source 24 place
  if limit + 10 < origin then refused
  else
    let (groups, place) ← takeBits source 16 place
    let (used, place) ← takeUsed source (setPlaces groups) place
    if used.isEmpty then refused
    else
      let symbols := used.length + 2
      let (count, place) ← takeBits source 3 place
      if count < 2 ∨ 6 < count then refused
      else
        let (turnCount, place) ← takeBits source 15 place
        if turnCount = 0 then refused
        else
          let (turns, place) ← takeTurns source turnCount (List.range count) [] place
          let (codes, place) ← takeCodes source symbols count place
          let turns := turns.reverse.map fun turn => codes.getD turn ⟨#[], #[]⟩
          let (column, place) ← takeColumn source limit (symbols - 1) (8 * source.size + 1)
            ⟨place, turns, 0, ⟨#[], #[]⟩, used, 0, 1, .empty⟩
          if column.size ≤ origin then refused
          else
            let next := successors column
            let plain := unsort column next column.size (next.getD origin 0) .empty
            let plain := if scrambled = 0 then plain else unscramble plain.size 0 stretches plain
            let runs := plain.foldl Runs.push ⟨.empty, 0, 0⟩
            if runs.count = 4 ∨ checkOf runs.out ≠ UInt32.ofNat check then refused
            else .ok (runs.out, UInt32.ofNat check, place)

inductive Part where
  | block (data : ByteArray) (check : UInt32) (place : Nat)
  /-- The end, with the check of all blocks. -/
  | finish (check : Nat)

def takePart (source : ByteArray) (limit place : Nat) : Except Halt Part := do
  let (mark, place) ← takeBits source 8 place
  if mark = 0x31 then
    let place ← expect source [0x41, 0x59, 0x26, 0x53, 0x59] place
    let (data, check, place) ← takeBlock source limit place
    .ok (.block data check place)
  else if mark = 0x17 then
    let place ← expect source [0x72, 0x45, 0x38, 0x50, 0x90] place
    let (check, _) ← takeBits source 32 place
    .ok (.finish check)
  else refused

/-- Unpacks block after block. A block gives nothing before it is there as a whole. -/
def unpackParts (source : ByteArray) (limit : Nat) :
    (steps place : Nat) → (total : UInt32) → ByteArray → Except Halt Unpacked
  | 0, _, _, out => .ok ⟨out, false⟩
  | steps + 1, place, total, out =>
    match takePart source limit place with
    | .error .starved => .ok ⟨out, false⟩
    | .error halt => .error halt
    | .ok (.block data check place) =>
      unpackParts source limit steps place (continueCheck total check) (out ++ data)
    | .ok (.finish check) => if UInt32.ofNat check = total then .ok ⟨out, true⟩ else refused

/-- The greatest size of a block is given in units of so many bytes. -/
def sizeUnit : Nat := 100000

def unpack (source : ByteArray) : Except Halt Unpacked :=
  let level : Except Halt (Nat × Nat) := do
    let place ← expect source [0x42, 0x5a, 0x68] 0
    takeBits source 8 place
  match level with
  | .error .starved => .ok ⟨.empty, false⟩
  | .error halt => .error halt
  | .ok (level, place) =>
    if level < 0x31 ∨ 0x39 < level then refused
    else unpackParts source (sizeUnit * (level - 0x30)) (8 * source.size + 1) place 0 .empty

end Elevation.Archive.Bzip2
