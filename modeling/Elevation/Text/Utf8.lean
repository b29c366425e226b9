import Elevation.Text.Quoted

/-!
Reading UTF-8, with the exact place and reason of the first fault.

A fault names the run of bytes that cannot be read: a byte that starts no character, a character
that a wrong byte interrupts, or one that the end of the data cuts short.
-/
namespace Elevation.Text

inductive Utf8Reason where
  | invalidStart
  | invalidContinuation
  | unexpectedEnd
  deriving DecidableEq, Repr

def Utf8Reason.text : Utf8Reason → String
  | .invalidStart => "invalid start byte"
  | .invalidContinuation => "invalid continuation byte"
  | .unexpectedEnd => "unexpected end of data"

/-- Bytes `start` to `stop`, both included, cannot be read; `byte` is the first of them. -/
structure Utf8Fault where
  byte : UInt8
  start : Nat
  stop : Nat
  reason : Utf8Reason
  deriving DecidableEq, Repr

def Utf8Fault.message (fault : Utf8Fault) : String :=
  let place :=
    if fault.start = fault.stop then
      "byte 0x" ++ String.ofList (hexDigits 2 fault.byte.toNat) ++ " in position "
        ++ toString fault.start
    else
      "bytes in position " ++ toString fault.start ++ "-" ++ toString fault.stop
  "'utf-8' codec can't decode " ++ place ++ ": " ++ fault.reason.text

/-- The number of bytes that a character starting with this byte takes; none starts no character. -/
def utf8Length? (byte : UInt8) : Option Nat :=
  if byte < 0x80 then some 1
  else if byte < 0xc2 then none
  else if byte < 0xe0 then some 2
  else if byte < 0xf0 then some 3
  else if byte < 0xf5 then some 4
  else none

/-- Whether a byte may stand second after `first`: overlong forms, surrogates and code points
beyond the last one are refused there. -/
def utf8SecondAllowed (first second : UInt8) : Bool :=
  if first = 0xe0 then 0xa0 ≤ second && second < 0xc0
  else if first = 0xed then 0x80 ≤ second && second < 0xa0
  else if first = 0xf0 then 0x90 ≤ second && second < 0xc0
  else if first = 0xf4 then 0x80 ≤ second && second < 0x90
  else 0x80 ≤ second && second < 0xc0

def isContinuation (byte : UInt8) : Bool := 0x80 ≤ byte && byte < 0xc0

/-- Reads one character whose first byte is `first` at `position`, the rest following it. -/
def utf8Char (position : Nat) (first : UInt8) (rest : List UInt8) :
    Except Utf8Fault (Char × List UInt8) :=
  let fault (length : Nat) (reason : Utf8Reason) : Except Utf8Fault (Char × List UInt8) :=
    .error ⟨first, position, position + length - 1, reason⟩
  let low (byte : UInt8) : Nat := byte.toNat % 64
  match utf8Length? first with
  | none => fault 1 .invalidStart
  | some 1 => .ok (Char.ofNat first.toNat, rest)
  | some 2 =>
    match rest with
    | [] => fault 1 .unexpectedEnd
    | b :: rest =>
      if utf8SecondAllowed first b then .ok (Char.ofNat (first.toNat % 32 * 64 + low b), rest)
      else fault 1 .invalidContinuation
  | some 3 =>
    match rest with
    | [] => fault 1 .unexpectedEnd
    | b :: rest =>
      if !utf8SecondAllowed first b then fault 1 .invalidContinuation
      else match rest with
        | [] => fault 2 .unexpectedEnd
        | c :: rest =>
          if isContinuation c then
            .ok (Char.ofNat ((first.toNat % 16 * 64 + low b) * 64 + low c), rest)
          else fault 2 .invalidContinuation
  | some _ =>
    match rest with
    | [] => fault 1 .unexpectedEnd
    | b :: rest =>
      if !utf8SecondAllowed first b then fault 1 .invalidContinuation
      else match rest with
        | [] => fault 2 .unexpectedEnd
        | c :: rest =>
          if !isContinuation c then fault 2 .invalidContinuation
          else match rest with
            | [] => fault 3 .unexpectedEnd
            | d :: rest =>
              if isContinuation d then
                .ok (Char.ofNat (((first.toNat % 8 * 64 + low b) * 64 + low c) * 64 + low d), rest)
              else fault 3 .invalidContinuation

/-- Reads characters until the bytes end; `steps` bounds their number. -/
def utf8From : (steps position : Nat) → List UInt8 → Except Utf8Fault (List Char)
  | 0, _, _ => .ok []
  | _ + 1, _, [] => .ok []
  | steps + 1, position, first :: rest =>
    match utf8Char position first rest with
    | .error fault => .error fault
    | .ok (c, rest) =>
      (utf8From steps (position + (utf8Length? first).getD 1) rest).map (c :: ·)

def ofUtf8 (bytes : List UInt8) : Except Utf8Fault (List Char) := utf8From bytes.length 0 bytes

/-- Reads characters until the bytes end, each run that cannot be read giving one replacement
character; `steps` bounds their number. -/
def utf8LossyFrom : (steps : Nat) → List UInt8 → List Char
  | 0, _ => []
  | _ + 1, [] => []
  | steps + 1, first :: rest =>
    match utf8Char 0 first rest with
    | .error fault => '\ufffd' :: utf8LossyFrom steps (rest.drop fault.stop)
    | .ok (c, after) => c :: utf8LossyFrom steps after

/-- The text that bytes encode, as far as they do. -/
def ofUtf8Lossy (bytes : List UInt8) : List Char := utf8LossyFrom bytes.length bytes

end Elevation.Text
