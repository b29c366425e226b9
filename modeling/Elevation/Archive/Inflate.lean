import Elevation.Archive.Bytes
import Elevation.Archive.PrefixCode

/-!
Decompression of deflated data, as a machine that can be stopped and fed again.

The machine stands at a bit of its input and keeps everything it has written. `advance` runs it
until the room for output is used up, the input given so far ends inside a symbol, the stream ends
or the data turns out to be damaged. It looks past the last byte it may write: the end of the
stream or damage directly behind that byte is seen at once. Only whether a copy reaches back too
far is not looked at before there is room for it.
-/
namespace Elevation.Archive.Inflate

/-- A step of reading: the input, the number of bits in it, and the place of the next bit. -/
structure Source where
  bytes : ByteArray
  bits : Nat

def bitAt (source : Source) (place : Nat) : Nat :=
  (byteAt source.bytes (place / 8) >>> (place % 8)) % 2

/-- `count` bits as a number, the first bit being the lowest, and the place after them. -/
def takeBits (source : Source) (place count : Nat) : Except Halt (Nat × Nat) :=
  if source.bits < place + count then .error .starved
  else
    let ahead := littleEndian source.bytes (place / 8) 3 >>> (place % 8)
    .ok (ahead % (1 <<< count), place + count)

/-! ### Prefix codes -/

def maxLength : Nat := 15

/-- The codes left over after the codes of each length are taken; negative when too many are. -/
def unusedCodes (code : Code) : Int :=
  (List.range maxLength).foldl
    (fun left short => 2 * left - (code.counts.getD (short + 1) 0 : Nat)) 1

def longest (code : Code) : Nat :=
  (List.range (maxLength + 1)).foldl
    (fun longest length => if 0 < length ∧ code.counts.getD length 0 ≠ 0 then length else longest) 0

/-- Whether every bit sequence is the start of exactly one code. A lone code of one bit is let
pass where `loneAllowed`, and so is a code without symbols. -/
def isUsable (loneAllowed : Bool) (code : Code) : Bool :=
  let unused := unusedCodes code
  longest code = 0 || unused = 0 || (0 < unused && loneAllowed && longest code = 1)

/-- Walks down the code one bit at a time. `first` is the lowest code of the present length,
`index` the place of its symbol, and `value` the bits read so far. -/
def walk (source : Source) (code : Code) (reason : String) :
    (steps place length value first index : Nat) → Except Halt (Nat × Nat)
  | 0, _, _, _, _, _ => .error (.damaged reason)
  | steps + 1, place, length, value, first, index =>
    if source.bits ≤ place then .error .starved
    else
      let value := value + bitAt source place
      let count := code.counts.getD length 0
      if value < first + count then .ok (code.symbols.getD (index + (value - first)) 0, place + 1)
      else
        walk source code reason steps (place + 1) (length + 1) (2 * value) (2 * (first + count))
          (index + count)

def takeSymbol (source : Source) (code : Code) (reason : String) (place : Nat) :
    Except Halt (Nat × Nat) :=
  walk source code reason (max 1 (longest code)) place 1 0 0 0

/-! ### Blocks -/

structure Alphabet where
  literals : Code
  distances : Code

def fixedAlphabet : Alphabet :=
  ⟨.ofLengths maxLength (List.replicate 144 8 ++ List.replicate 112 9 ++ List.replicate 24 7
      ++ List.replicate 8 8),
    .ofLengths maxLength (List.replicate 32 5)⟩

def lengthOrder : List Nat := [16, 17, 18, 0, 8, 7, 9, 6, 10, 5, 11, 4, 12, 3, 13, 2, 14, 1, 15]

def takeLengthLengths (source : Source) : List Nat → Nat → Except Halt (List (Nat × Nat) × Nat)
  | [], place => .ok ([], place)
  | symbol :: rest, place =>
    match takeBits source place 3 with
    | .error halt => .error halt
    | .ok (length, place) =>
      (takeLengthLengths source rest place).map fun (lengths, place) =>
        ((symbol, length) :: lengths, place)

/-- How a length symbol above fifteen repeats: the bits of its count, the least count, and whether
the last length is repeated instead of zero. -/
def repeatRule (symbol : Nat) : Nat × Nat × Bool :=
  if symbol = 16 then (2, 3, true) else if symbol = 17 then (3, 3, false) else (7, 11, false)

/-- The next symbol of the code of code lengths. Where that code has no symbols, every bit stands
for the symbol zero. -/
def takeLengthSymbol (source : Source) (code : Code) (place : Nat) : Except Halt (Nat × Nat) :=
  if longest code = 0 then (takeBits source place 1).map fun (_, place) => (0, place)
  else takeSymbol source code "invalid code lengths set" place

/-- Reads code lengths, in reverse, until there are `total` of them. -/
def takeLengths (source : Source) (code : Code) (total : Nat) :
    (steps : Nat) → (found : Nat) → List Nat → Nat → Except Halt (List Nat × Nat)
  | 0, _, lengths, place => .ok (lengths, place)
  | steps + 1, found, lengths, place =>
    if total ≤ found then .ok (lengths, place)
    else
      match takeLengthSymbol source code place with
      | .error halt => .error halt
      | .ok (symbol, place) =>
        if symbol < 16 then
          takeLengths source code total steps (found + 1) (symbol :: lengths) place
        else
          let (bits, least, again) := repeatRule symbol
          match takeBits source place bits with
          | .error halt => .error halt
          | .ok (extra, place) =>
            let count := least + extra
            if again && lengths.isEmpty || total < found + count then
              .error (.damaged "invalid bit length repeat")
            else
              let length := if again then lengths.headD 0 else 0
              takeLengths source code total steps (found + count)
                (List.replicate count length ++ lengths) place

def takeAlphabet (source : Source) (place : Nat) : Except Halt (Alphabet × Nat) := do
  let (counts, place) ← takeBits source place 14
  let literalCount := counts % 32 + 257
  let distanceCount := counts / 32 % 32 + 1
  let lengthCount := counts / 1024 + 4
  if 286 < literalCount ∨ 30 < distanceCount then
    .error (.damaged "too many length or distance symbols")
  else
    let (pairs, place) ← takeLengthLengths source (lengthOrder.take lengthCount) place
    let lengthOf symbol := (pairs.lookup symbol).getD 0
    let lengthCode := Code.ofLengths maxLength ((List.range 19).map lengthOf)
    if !isUsable false lengthCode then .error (.damaged "invalid code lengths set")
    else
      let total := literalCount + distanceCount
      let (reversed, place) ← takeLengths source lengthCode total total 0 [] place
      let lengths := reversed.reverse
      if lengths.getD 256 0 = 0 then .error (.damaged "invalid code -- missing end-of-block")
      else
        let literals := Code.ofLengths maxLength (lengths.take literalCount)
        if !isUsable true literals then .error (.damaged "invalid literal/lengths set")
        else
          let distances := Code.ofLengths maxLength (lengths.drop literalCount)
          if !isUsable true distances then .error (.damaged "invalid distances set")
          else .ok (⟨literals, distances⟩, place)

/-! ### Matches -/

def lengthBases : Array Nat := #[3, 4, 5, 6, 7, 8, 9, 10, 11, 13, 15, 17, 19, 23, 27, 31, 35, 43,
  51, 59, 67, 83, 99, 115, 131, 163, 195, 227, 258]

def lengthExtras : Array Nat := #[0, 0, 0, 0, 0, 0, 0, 0, 1, 1, 1, 1, 2, 2, 2, 2, 3, 3, 3, 3, 4, 4,
  4, 4, 5, 5, 5, 5, 0]

def distanceBases : Array Nat := #[1, 2, 3, 4, 5, 7, 9, 13, 17, 25, 33, 49, 65, 97, 129, 193, 257,
  385, 513, 769, 1025, 1537, 2049, 3073, 4097, 6145, 8193, 12289, 16385, 24577]

def distanceExtras : Array Nat := #[0, 0, 0, 0, 1, 1, 2, 2, 3, 3, 4, 4, 5, 5, 6, 6, 7, 7, 8, 8, 9,
  9, 10, 10, 11, 11, 12, 12, 13, 13]

inductive Item where
  | literal (byte : UInt8)
  | copy (distance length : Nat)
  | endOfBlock

def takeItem (source : Source) (alphabet : Alphabet) (place : Nat) :
    Except Halt (Item × Nat) := do
  let (symbol, place) ← takeSymbol source alphabet.literals "invalid literal/length code" place
  if symbol < 256 then .ok (.literal (UInt8.ofNat symbol), place)
  else if symbol = 256 then .ok (.endOfBlock, place)
  else if 285 < symbol then .error (.damaged "invalid literal/length code")
  else
    let (extra, place) ← takeBits source place (lengthExtras.getD (symbol - 257) 0)
    let length := lengthBases.getD (symbol - 257) 0 + extra
    let (symbol, place) ← takeSymbol source alphabet.distances "invalid distance code" place
    if 29 < symbol then .error (.damaged "invalid distance code")
    else
      let (extra, place) ← takeBits source place (distanceExtras.getD symbol 0)
      .ok (.copy (distanceBases.getD symbol 0 + extra) length, place)

def Item.reachesBack (written : Nat) : Item → Bool
  | .copy distance _ => written < distance
  | .literal _ | .endOfBlock => false

/-! ### The machine -/

inductive Mode where
  | header
  | stored (left : Nat)
  | coded (alphabet : Alphabet) (pending : Option Item)
  | finished

/-- The machine between two steps; `last` marks the last block. -/
structure State where
  place : Nat
  out : ByteArray
  last : Bool
  mode : Mode

def State.start (place : Nat) : State := ⟨place, .empty, false, .header⟩

inductive Status where
  | full
  | starved
  | finished
  | damaged (reason : String)
  deriving DecidableEq, Repr

def afterBlock (state : State) : State :=
  { state with mode := if state.last then .finished else .header }

def takeHeader (source : Source) (state : State) : Except Halt State := do
  let (bits, place) ← takeBits source state.place 3
  let last := bits % 2 = 1
  match bits / 2 with
  | 0 =>
    let start := (place + 7) / 8 * 8
    let (size, place) ← takeBits source start 16
    let (complement, place) ← takeBits source place 16
    if size + complement = 0xffff then
      .ok { state with place := place, last := last, mode := .stored size }
    else .error (.damaged "invalid stored block lengths")
  | 1 => .ok { state with place := place, last := last, mode := .coded fixedAlphabet none }
  | 2 =>
    let (alphabet, place) ← takeAlphabet source place
    .ok { state with place := place, last := last, mode := .coded alphabet none }
  | _ => .error (.damaged "invalid block type")

/-- Writes an item as far as the room reaches; what is left of it stays pending. -/
def writeItem (alphabet : Alphabet) (limit : Nat) (state : State) (item : Item) : State :=
  match item with
  | .endOfBlock => afterBlock state
  | .literal byte =>
    if state.out.size < limit then
      { state with out := state.out.push byte, mode := .coded alphabet none }
    else { state with mode := .coded alphabet (some item) }
  | .copy distance length =>
    let count := min length (limit - state.out.size)
    let rest := if count < length then some (.copy distance (length - count)) else none
    { state with out := copyBack distance count state.out, mode := .coded alphabet rest }

def copyStored (source : Source) (limit left : Nat) (state : State) : State :=
  let start := state.place / 8
  let count := min left (min (limit - state.out.size) (source.bits / 8 - start))
  { state with
    place := state.place + 8 * count
    out := state.out ++ source.bytes.extract start (start + count)
    mode := .stored (left - count) }

/-- Runs the machine until at most `limit` bytes stand written. -/
def run (source : Source) (limit : Nat) : (steps : Nat) → State → State × Status
  | 0, state => (state, .starved)
  | steps + 1, state =>
    match state.mode with
    | .finished => (state, .finished)
    | .header =>
      match takeHeader source state with
      | .ok state => run source limit steps state
      | .error .starved => (state, .starved)
      | .error (.damaged reason) => (state, .damaged reason)
    | .stored 0 => run source limit steps (afterBlock state)
    | .stored left =>
      if limit ≤ state.out.size then (state, .full)
      else if source.bits / 8 ≤ state.place / 8 then (state, .starved)
      else run source limit steps (copyStored source limit left state)
    | .coded alphabet (some item) =>
      if limit ≤ state.out.size then (state, .full)
      else if item.reachesBack state.out.size then (state, .damaged "invalid distance too far back")
      else run source limit steps (writeItem alphabet limit state item)
    | .coded alphabet none =>
      match takeItem source alphabet state.place with
      | .ok (.endOfBlock, place) =>
        run source limit steps (afterBlock { state with place := place })
      | .ok (item, place) =>
        run source limit steps { state with place := place, mode := .coded alphabet (some item) }
      | .error .starved => (state, .starved)
      | .error (.damaged reason) => (state, .damaged reason)

/-- Feeds the machine the input up to byte `stop` and lets it write `room` more bytes. -/
def advance (bytes : ByteArray) (stop room : Nat) (state : State) : State × Status :=
  let source : Source := ⟨bytes, 8 * stop⟩
  run source (state.out.size + room) (4 * (8 * stop + 8 - state.place) + 8) state

/-- Bytes of the input up to byte `stop` that a run has left alone: those behind the last item
that it has taken, or none where it asks for more. -/
def State.untouched (state : State) (status : Status) (stop : Nat) : Nat :=
  if status = .starved then 0 else stop - (state.place + 7) / 8

end Elevation.Archive.Inflate
