import Elevation.Text.Blank

/-!
Hosts that are numbers: addresses of 32 bits in four decimal parts, and addresses of 128 bits in
eight hexadecimal ones, a run of zeros being left out between two colons.
-/
namespace Elevation.Standin.Url

def splitFrom (mark : Char) (part : List Char) : List Char → List (List Char)
  | [] => [part.reverse]
  | c :: rest =>
    if c = mark then part.reverse :: splitFrom mark [] rest else splitFrom mark (c :: part) rest

def splitAt (mark : Char) (text : List Char) : List (List Char) := splitFrom mark [] text

/-! ### Four decimal parts -/

def isOctet (part : List Char) : Bool :=
  part ≠ [] && part.length ≤ 3 && part.all Text.isAsciiDigit
    && (part = ['0'] || part.head? ≠ some '0')
    && part.foldl (fun value c => 10 * value + (c.toNat - 48)) 0 ≤ 255

def isIPv4 (text : List Char) : Bool :=
  let parts := splitAt '.' text
  parts.length = 4 && parts.all isOctet

/-- Where a text can stand in four runs of digits with one character between each two: even states
wait for a run, odd ones are inside of one. -/
def nextStates (states : List Nat) (c : Char) : List Nat :=
  (List.range 8).filter fun state =>
    states.any fun old =>
      if old % 2 = 0 then Text.isAsciiDigit c && state = old + 1
      else (Text.isAsciiDigit c && state = old) || state = old + 1

def looksLikeIPv4 (text : List Char) : Bool := (text.foldl nextStates [0]).contains 7

/-! ### Eight hexadecimal parts -/

def isHexPart (part : List Char) : Bool :=
  part ≠ [] && part.length ≤ 4
    && part.all fun c => Text.isAsciiDigit c || ('a' ≤ c && c ≤ 'f') || ('A' ≤ c && c ≤ 'F')

/-- The parts with a last one in decimal notation replaced by the two that it stands for. -/
def withoutDecimal? (parts : List (List Char)) : Option (List (List Char)) :=
  match parts.getLast? with
  | some last =>
    if !last.contains '.' then some parts
    else if isIPv4 last then some (parts.dropLast ++ [['0'], ['0']])
    else none
  | none => none

/-- The parts on one side of the run of zeros, where the run may reach to the end of the text:
then one empty part is all there is. -/
def isSide (parts : List (List Char)) : Bool := parts = [[]] || parts.all isHexPart

def sideLength (parts : List (List Char)) : Nat := if parts = [[]] then 0 else parts.length

/-- Whether parts make up an address, at most one run of zeros being left out. -/
def areHexParts (parts : List (List Char)) : Bool :=
  match (parts.drop 1).dropLast.findIdx? List.isEmpty with
  | some inner =>
    let before := parts.take (inner + 1)
    let after := parts.drop (inner + 2)
    isSide before && isSide after && sideLength before + sideLength after ≤ 7
  | none => parts.length = 8 && parts.all isHexPart

def isIPv6 (text : List Char) : Bool :=
  let (address, scope) := text.span (· ≠ '%')
  let scopeFits :=
    match scope with
    | [] => true
    | _ :: scope => scope ≠ [] && !scope.contains '%'
  let parts := splitAt ':' address
  !text.contains '/' && scopeFits && 3 ≤ parts.length
    && (withoutDecimal? parts).any areHexParts

end Elevation.Standin.Url
