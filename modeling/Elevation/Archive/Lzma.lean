import Elevation.Archive.Bytes
import Elevation.Archive.PrefixCode

/-!
Unpacking of data that were packed decision by decision.

Data are literal bytes and copies of what came before. Each of them is a row of decisions between
zero and one, and a decision takes the less room the likelier it was. The likelihood of each kind of
decision is learnt on the way: it moves by a thirty-second toward what came.
-/
namespace Elevation.Archive.Lzma

def corrupt {α : Type} : Except Halt α := .error (.damaged "Corrupt input data")

/-! ### Decisions -/

/-- The coder between two decisions: the place of the next byte, the width of the present range, how
far into it the data point, and of 2048 parts how many speak for a zero, for each kind of
decision. -/
structure Coder where
  place : Nat
  range : UInt32
  code : UInt32
  chances : Array Nat

def Coder.widen (source : ByteArray) (coder : Coder) : Except Halt Coder :=
  if 0x1000000 ≤ coder.range then .ok coder
  else if source.size ≤ coder.place then .error .starved
  else
    let byte := UInt32.ofNat (byteAt source coder.place)
    .ok { coder with
      place := coder.place + 1
      range := coder.range <<< 8
      code := (coder.code <<< 8) ||| byte }

def Coder.decide (source : ByteArray) (kind : Nat) (coder : Coder) : Except Halt (Nat × Coder) :=
  match coder.widen source with
  | .error halt => .error halt
  | .ok ⟨place, range, code, chances⟩ =>
    let chance := chances.getD kind 1024
    let bound := (range >>> 11) * UInt32.ofNat chance
    if code < bound then
      .ok (0, ⟨place, bound, code, chances.setIfInBounds kind (chance + (2048 - chance) / 32)⟩)
    else
      .ok (1, ⟨place, range - bound, code - bound,
        chances.setIfInBounds kind (chance - chance / 32)⟩)

/-- Decides `count` times between zero and one where both are equally likely, and appends what came
to a number. -/
def Coder.decideEvenly (source : ByteArray) :
    (count value : Nat) → Coder → Except Halt (Nat × Coder)
  | 0, value, coder => .ok (value, coder)
  | count + 1, value, coder =>
    match coder.widen source with
    | .error halt => .error halt
    | .ok coder =>
      let half := coder.range >>> 1
      let rest := coder.code - half
      if rest < 0x80000000 then
        decideEvenly source count (2 * value + 1) { coder with range := half, code := rest }
      else decideEvenly source count (2 * value) { coder with range := half }

/-- Makes `count` decisions, each of a kind that depends on the ones before, and appends what came
to `node`. -/
def Coder.descend (source : ByteArray) (kinds : Nat) :
    (count node : Nat) → Coder → Except Halt (Nat × Coder)
  | 0, node, coder => .ok (node, coder)
  | count + 1, node, coder =>
    match coder.decide source (kinds + node) with
    | .error halt => .error halt
    | .ok (bit, coder) => descend source kinds count (2 * node + bit) coder

/-- A number of `count` bits, the highest one first. -/
def Coder.number (source : ByteArray) (kinds count : Nat) (coder : Coder) :
    Except Halt (Nat × Coder) :=
  (coder.descend source kinds count 1).map fun (node, coder) => (node - 1 <<< count, coder)

/-- A number of `count` bits, the lowest one first; `unit` is what the next one stands for. -/
def Coder.reversed (source : ByteArray) (kinds : Nat) :
    (count node unit value : Nat) → Coder → Except Halt (Nat × Coder)
  | 0, _, _, value, coder => .ok (value, coder)
  | count + 1, node, unit, value, coder =>
    match coder.decide source (kinds + node) with
    | .error halt => .error halt
    | .ok (bit, coder) =>
      reversed source kinds count (2 * node + bit) (2 * unit) (value + bit * unit) coder

/-! ### Kinds of decisions -/

def copyKinds : Nat := 0
def againKinds : Nat := 192
def firstAgainKinds : Nat := 204
def secondAgainKinds : Nat := 216
def thirdAgainKinds : Nat := 228
def longAgainKinds : Nat := 240
def slotKinds : Nat := 432
def distanceKinds : Nat := 688
def alignmentKinds : Nat := 816
def lengthKinds : Nat := 832
def againLengthKinds : Nat := 1346
def literalKinds : Nat := 1860

/-! ### Literals and copies -/

/-- On what the kinds of decisions depend: the lowest bits of the place, and for literals also the
highest bits of the byte before. Copies reach back as far as the window does. -/
structure Setup where
  literalContext : Nat
  literalPlace : Nat
  place : Nat
  window : Nat

/-- What is known between two items: what came last (a literal, a copy, a copy from the same
distance, and so on, as a number below twelve), and the four last distances. -/
structure State where
  coder : Coder
  past : Nat
  first : Nat
  second : Nat
  third : Nat
  fourth : Nat

inductive Item where
  | literal (byte : UInt8)
  /-- Bytes from before, the nearest distance being zero. -/
  | copy (distance length : Nat)
  | finish

def literalPasts : Nat := 7

def pastAfterLiteral (past : Nat) : Nat :=
  if past < 4 then 0 else if past < 10 then past - 3 else past - 6

/-- The byte `distance` places before the last one, zero before the first byte. -/
def backByte (out : ByteArray) (distance : Nat) : Nat :=
  if distance < out.size then byteAt out (out.size - 1 - distance) else 0

def Setup.reaches (setup : Setup) (out : ByteArray) (distance : Nat) : Bool :=
  distance < min out.size setup.window

/-- A literal after a copy: as long as it agrees with the byte to which the copy would have gone on,
that byte's bits choose the kinds. -/
def matchedLiteral (source : ByteArray) (kinds : Nat) :
    (count expected offset node : Nat) → Coder → Except Halt (Nat × Coder)
  | 0, _, _, node, coder => .ok (node, coder)
  | count + 1, expected, offset, node, coder =>
    let expectedBit := expected &&& offset
    match coder.decide source (kinds + offset + expectedBit + node) with
    | .error halt => .error halt
    | .ok (bit, coder) =>
      let offset := if bit = 0 then offset ^^^ expectedBit else expectedBit
      matchedLiteral source kinds count (2 * expected) offset (2 * node + bit) coder

def State.literal (source : ByteArray) (setup : Setup) (out : ByteArray) (state : State) :
    Except Halt (Item × State) :=
  let ⟨coder, past, first, second, third, fourth⟩ := state
  let byPlace := (out.size % (1 <<< setup.literalPlace)) <<< setup.literalContext
  let byByte := backByte out 0 >>> (8 - setup.literalContext)
  let kinds := literalKinds + 0x300 * (byPlace + byByte)
  let read :=
    if past < literalPasts then coder.descend source kinds 8 1
    else matchedLiteral source kinds 8 (2 * backByte out first) 0x100 1 coder
  match read with
  | .error halt => .error halt
  | .ok (node, coder) =>
    .ok (.literal (UInt8.ofNat node),
      ⟨coder, pastAfterLiteral past, first, second, third, fourth⟩)

/-- The length of a copy, which is at least two. -/
def takeLength (source : ByteArray) (kinds place : Nat) (coder : Coder) :
    Except Halt (Nat × Coder) := do
  let (long, coder) ← coder.decide source kinds
  if long = 0 then
    let (value, coder) ← coder.number source (kinds + 2 + 8 * place) 3
    .ok (value + 2, coder)
  else
    let (longer, coder) ← coder.decide source (kinds + 1)
    if longer = 0 then
      let (value, coder) ← coder.number source (kinds + 130 + 8 * place) 3
      .ok (value + 10, coder)
    else
      let (value, coder) ← coder.number source (kinds + 258) 8
      .ok (value + 18, coder)

/-- How far back a copy of some length reaches. The number of bits and the two highest of them come
first. -/
def takeDistance (source : ByteArray) (length : Nat) (coder : Coder) :
    Except Halt (Nat × Coder) := do
  let (slot, coder) ← coder.number source (slotKinds + 64 * (min length 5 - 2)) 6
  if slot < 4 then .ok (slot, coder)
  else
    let bits := slot / 2 - 1
    let head := 2 + slot % 2
    if slot < 14 then
      let least := head <<< bits
      let (rest, coder) ← coder.reversed source (distanceKinds + least - slot - 1) bits 1 1 0
      .ok (least + rest, coder)
    else
      let (high, coder) ← coder.decideEvenly source (bits - 4) head
      let (low, coder) ← coder.reversed source alignmentKinds 4 1 1 0
      .ok (16 * high + low, coder)

def endDistance : Nat := 0xffffffff

def State.copy (source : ByteArray) (setup : Setup) (out : ByteArray) (place : Nat)
    (state : State) : Except Halt (Item × State) := do
  let ⟨coder, past, first, second, third, fourth⟩ := state
  let (length, coder) ← takeLength source lengthKinds place coder
  let (distance, coder) ← takeDistance source length coder
  if distance = endDistance then
    let coder ← coder.widen source
    if coder.code = 0 then .ok (.finish, ⟨coder, past, first, second, third, fourth⟩) else corrupt
  else if setup.reaches out distance then
    let past := if past < literalPasts then 7 else 10
    .ok (.copy distance length, ⟨coder, past, distance, first, second, third⟩)
  else corrupt

/-- Reads which of the last distances comes again, and puts it in front. -/
def State.recall (source : ByteArray) (state : State) : Except Halt State := do
  let ⟨coder, past, first, second, third, fourth⟩ := state
  let (later, coder) ← coder.decide source (secondAgainKinds + past)
  if later = 0 then .ok ⟨coder, past, second, first, third, fourth⟩
  else
    let (last, coder) ← coder.decide source (thirdAgainKinds + past)
    if last = 0 then .ok ⟨coder, past, third, first, second, fourth⟩
    else .ok ⟨coder, past, fourth, first, second, third⟩

def State.copyAgain (source : ByteArray) (place : Nat) (state : State) :
    Except Halt (Item × State) := do
  let ⟨coder, past, first, second, third, fourth⟩ := state
  let (length, coder) ← takeLength source againLengthKinds place coder
  let past := if past < literalPasts then 8 else 11
  .ok (.copy first length, ⟨coder, past, first, second, third, fourth⟩)

/-- Reads a copy from one of the last distances; a lone byte may come from the first of them. -/
def State.again (source : ByteArray) (place : Nat) (state : State) :
    Except Halt (Item × State) := do
  let ⟨coder, past, first, second, third, fourth⟩ := state
  let (other, coder) ← coder.decide source (firstAgainKinds + past)
  if other = 0 then
    let (long, coder) ← coder.decide source (longAgainKinds + 16 * past + place)
    if long = 0 then
      let past := if past < literalPasts then 9 else 11
      .ok (.copy first 1, ⟨coder, past, first, second, third, fourth⟩)
    else State.copyAgain source place ⟨coder, past, first, second, third, fourth⟩
  else
    let state ← State.recall source ⟨coder, past, first, second, third, fourth⟩
    state.copyAgain source place

def State.next (source : ByteArray) (setup : Setup) (out : ByteArray) (state : State) :
    Except Halt (Item × State) := do
  let ⟨coder, past, first, second, third, fourth⟩ := state
  let place := out.size % (1 <<< setup.place)
  let (isCopy, coder) ← coder.decide source (copyKinds + 16 * past + place)
  if isCopy = 0 then
    State.literal source setup out ⟨coder, past, first, second, third, fourth⟩
  else
    let (isAgain, coder) ← coder.decide source (againKinds + past)
    let state : State := ⟨coder, past, first, second, third, fourth⟩
    if isAgain = 0 then state.copy source setup out place
    else if out.isEmpty then corrupt
    else state.again source place

/-! ### The whole -/

/-- Reads on until the data end. An item that lacks bytes gives nothing. -/
def run (source : ByteArray) (setup : Setup) :
    (steps : Nat) → State → (out : ByteArray) → Except Halt Unpacked
  | 0, _, out => .ok ⟨out, false⟩
  | steps + 1, state, out =>
    match state.next source setup out with
    | .error .starved => .ok ⟨out, false⟩
    | .error halt => .error halt
    | .ok (.finish, _) => .ok ⟨out, true⟩
    | .ok (.literal byte, state) => run source setup steps state (out.push byte)
    | .ok (.copy distance length, state) =>
      run source setup steps state (copyBack (distance + 1) length out)

def mostItems : Nat := 512

def setupAt (source : ByteArray) (place : Nat) : Except Halt Setup :=
  let shape := byteAt source place
  let literalContext := shape % 9
  let literalPlace := shape / 9 % 5
  if 224 < shape ∨ 4 < literalContext + literalPlace then
    .error (.damaged "Invalid or unsupported options")
  else
    let window := (max 4096 (word32 source (place + 1)) + 15) / 16 * 16
    .ok ⟨literalContext, literalPlace, shape / 45, window⟩

/-- The coder at the start: a byte that has to be zero stands before the first four. -/
def Coder.start (source : ByteArray) (place : Nat) (setup : Setup) : Except Halt Coder :=
  if source.size ≤ place then .error .starved
  else if byteAt source place ≠ 0 then corrupt
  else if source.size < place + 5 then .error .starved
  else
    let code := (List.range 4).foldl
      (fun code i => 256 * code + byteAt source (place + 1 + i)) 0
    let literals := 0x300 <<< (setup.literalContext + setup.literalPlace)
    .ok ⟨place + 5, 0xffffffff, UInt32.ofNat code, Array.replicate (literalKinds + literals) 1024⟩

def setupPlace : Nat := 4
def setupSize : Nat := 5

def start (source : ByteArray) : Except Halt (Setup × State) := do
  let size := word16 source 2
  if source.size ≤ setupPlace ∨ source.size ≤ setupPlace + size then .error .starved
  else if size ≠ setupSize then .error (.damaged "Invalid or unsupported options")
  else
    let setup ← setupAt source setupPlace
    let coder ← Coder.start source (setupPlace + size) setup
    .ok (setup, ⟨coder, 0, 0, 0, 0, 0⟩)

def unpack (source : ByteArray) : Except Halt Unpacked :=
  match start source with
  | .error .starved => .ok ⟨.empty, false⟩
  | .error halt => .error halt
  | .ok (setup, state) => run source setup (mostItems * (source.size + 1)) state .empty

end Elevation.Archive.Lzma
