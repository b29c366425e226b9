/-!
Labels of all characters, written in the letters, digits and hyphens of ASCII.

The ASCII characters of a label come first, followed by a hyphen where there are any. Then one
number for each further character, by increasing code point, says how many places and code points
lie between it and the one before. A number is written by digits from `a` to `z` and from `0` to
`9`, low digit first; from which value on a digit is followed by another depends on the numbers so
far.
-/
namespace Elevation.Standin.Hostname.Punycode

/-- The number of digits, and the least and the greatest threshold of a digit. -/
def base : Nat := 36
def leastThreshold : Nat := 1
def greatestThreshold : Nat := 26

def firstBias : Nat := 72

/-- The first code point beyond ASCII, and the last one of all. -/
def firstCode : Nat := 0x80
def lastCode : Nat := 0x10ffff

/-- A digit of at least this value is followed by another; `place` counts the digits before it. -/
def threshold (place bias : Nat) : Nat :=
  max leastThreshold (min greatestThreshold (base * (place + 1) - bias))

/-- Takes digits off a number until it is small, and says how often. -/
def reduceFrom (count : Nat) : (steps delta : Nat) → Nat × Nat
  | 0, delta => (count, delta)
  | steps + 1, delta =>
    if delta ≤ (base - leastThreshold) * greatestThreshold / 2 then (count, delta)
    else reduceFrom (count + 1) steps (delta / (base - leastThreshold))

/-- The bias after a number: `total` characters are written, `first` marks the first number. -/
def adapt (delta total : Nat) (first : Bool) : Nat :=
  let scaled := if first then delta / 700 else delta / 2
  let (count, rest) := reduceFrom 0 scaled (scaled + scaled / total)
  count * base + base * rest / (rest + 38)

def digit (value : Nat) : Nat := if value < 26 then 97 + value else 22 + value

def digitValue? (code : Nat) : Option Nat :=
  if 97 ≤ code ∧ code ≤ 122 then some (code - 97)
  else if 48 ≤ code ∧ code ≤ 57 then some (code - 22)
  else none

/-! ### Writing -/

def numberFrom (bias : Nat) : (steps place value : Nat) → List Nat
  | 0, _, _ => []
  | steps + 1, place, value =>
    let least := threshold place bias
    if value < least then [digit value]
    else
      let rest := value - least
      digit (least + rest % (base - least))
        :: numberFrom bias steps (place + 1) (rest / (base - least))

def number (bias value : Nat) : List Nat := numberFrom bias (value + 1) 0 value

/-- What stands between two characters in writing: the distance since the last one, the bias, the
number of characters written, and the digits so far. -/
structure Pen where
  delta : Nat
  bias : Nat
  written : Nat
  digits : List Nat

/-- Passes a character of the label while those of code point `point` are written. -/
def Pen.pass (asciiCount point : Nat) (pen : Pen) (code : Nat) : Pen :=
  if code < point then { pen with delta := pen.delta + 1 }
  else if code = point then
    { delta := 0
      bias := adapt pen.delta (pen.written + 1) (pen.written = asciiCount)
      written := pen.written + 1
      digits := pen.digits ++ number pen.bias pen.delta }
  else pen

def writePoints (label : List Nat) (asciiCount : Nat) (pen : Pen) (from_ : Nat) :
    List Nat → List Nat
  | [] => pen.digits
  | point :: rest =>
    let pen := { pen with delta := pen.delta + (point - from_) * (pen.written + 1) }
    let pen := label.foldl (Pen.pass asciiCount point) pen
    writePoints label asciiCount { pen with delta := pen.delta + 1 } (point + 1) rest

/-- The code points of a label beyond ASCII, each once and in increasing order. -/
def pointsOf (label : List Nat) : List Nat :=
  ((label.filter (firstCode ≤ ·)).mergeSort (fun a b => decide (a ≤ b))).eraseDups

def hyphen : Nat := 45

def encode (label : List Nat) : List Nat :=
  let ascii := label.filter (· < firstCode)
  let digits := writePoints label ascii.length ⟨0, firstBias, ascii.length, []⟩ firstCode
    (pointsOf label)
  if ascii.isEmpty then digits else ascii ++ hyphen :: digits

/-! ### Reading -/

def readNumber (bias place weight value : Nat) : List Nat → Option (Nat × List Nat)
  | [] => none
  | code :: rest =>
    match digitValue? code with
    | none => none
    | some digit =>
      let least := threshold place bias
      let value := value + digit * weight
      if digit < least then some (value, rest)
      else readNumber bias (place + 1) (weight * (base - least)) value rest

/-- Puts characters into a label until the digits end. The next one comes at least at `place` and is
at least `point`. -/
def readFrom (bias place point : Nat) (first : Bool) (label : List Nat) :
    (steps : Nat) → List Nat → Option (List Nat)
  | 0, _ => some label
  | _ + 1, [] => some label
  | steps + 1, digits =>
    match readNumber bias 0 1 0 digits with
    | none => none
    | some (delta, digits) =>
      let total := label.length + 1
      let distance := place + delta
      let point := point + distance / total
      let place := distance % total
      if lastCode < point then none
      else
        readFrom (adapt delta total first) (place + 1) point false
          (label.take place ++ point :: label.drop place) steps digits

def splitLast (written : List Nat) : List Nat × List Nat :=
  let digits := (written.reverse.takeWhile (· ≠ hyphen)).reverse
  (written.take (written.length - digits.length - 1), digits)

def decode? (written : List Nat) : Option (List Nat) :=
  let (ascii, digits) := splitLast written
  readFrom firstBias 0 firstCode true ascii digits.length digits

end Elevation.Standin.Hostname.Punycode
