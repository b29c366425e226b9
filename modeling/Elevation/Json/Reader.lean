import Elevation.Decimal.Read
import Elevation.Json.Value

/-!
Reading structured data.

A number with a point or an exponent is a floating-point number, any other one is whole. The words
for infinities and for the value that is no number are numbers, too. Escapes of characters beyond
the sixteen-bit range come in pairs.
-/
namespace Elevation.Json

/-- A value or a part of one, and the text behind it. -/
abbrev Read (α : Type) := Option (α × List Char)

def isGap (c : Char) : Bool := c = ' ' || c = '\n' || c = '\r' || c = '\t'

def skipGap (text : List Char) : List Char := text.dropWhile isGap

def hexValue? (c : Char) : Option Nat :=
  if c.isDigit then some (c.toNat - 48)
  else if 'a' ≤ c && c ≤ 'f' then some (c.toNat - 87)
  else if 'A' ≤ c && c ≤ 'F' then some (c.toNat - 55)
  else none

def readCode : List Char → Read Nat
  | a :: b :: c :: d :: rest =>
    match hexValue? a, hexValue? b, hexValue? c, hexValue? d with
    | some a, some b, some c, some d => some (((a * 16 + b) * 16 + c) * 16 + d, rest)
    | _, _, _, _ => none
  | _ => none

/-- The character of a code, which may need a second code behind it. -/
def readEscapedChar (text : List Char) : Read Char :=
  match readCode text with
  | none => none
  | some (code, rest) =>
    if 0xd800 ≤ code && code < 0xdc00 then
      match rest with
      | '\\' :: 'u' :: rest =>
        match readCode rest with
        | none => none
        | some (low, rest) =>
          some (Char.ofNat (0x10000 + (code - 0xd800) * 0x400 + (low - 0xdc00)), rest)
      | _ => some (Char.ofNat 0xfffd, rest)
    else some (Char.ofNat code, rest)

def simpleEscape? : Char → Option Char
  | '"' => some '"'
  | '\\' => some '\\'
  | '/' => some '/'
  | 'n' => some '\n'
  | 'r' => some '\r'
  | 't' => some '\t'
  | 'b' => some (Char.ofNat 8)
  | 'f' => some (Char.ofNat 12)
  | _ => none

/-- The rest of a text up to its closing quote; what was read stands in reverse. -/
def readText : (steps : Nat) → List Char → List Char → Read String
  | 0, _, _ => none
  | _ + 1, _, [] => none
  | steps + 1, before, c :: rest =>
    if c = '"' then some (String.ofList before.reverse, rest)
    else if c = '\\' then
      match rest with
      | 'u' :: rest =>
        match readEscapedChar rest with
        | none => none
        | some (c, rest) => readText steps (c :: before) rest
      | c :: rest =>
        match simpleEscape? c with
        | none => none
        | some c => readText steps (c :: before) rest
      | [] => none
    else readText steps (c :: before) rest

def isNumberChar (c : Char) : Bool :=
  c.isDigit || c = '-' || c = '+' || c = '.' || c = 'e' || c = 'E'

def wordNumbers : List (String × Float) :=
  [("NaN", 0.0 / 0.0), ("Infinity", 1.0 / 0.0), ("-Infinity", -1.0 / 0.0)]

def readFigures (text : List Char) : Read Json :=
  let (number, rest) := text.span isNumberChar
  let set := Decimal.DigitSet.ascii
  if number.any fun c => c = '.' || c = 'e' || c = 'E' then
    (set.float? number).map fun value => (.float value, rest)
  else (set.int? number).map fun value => (.int value, rest)

def readNumber (text : List Char) : Read Json :=
  match wordNumbers.find? fun (word, _) => Text.startsWith word.toList text with
  | some (word, value) => some (.float value, text.drop word.length)
  | none => readFigures text

mutual

/-- A value; `steps` bounds the number of parts that are read. -/
def readValue : (steps : Nat) → List Char → Read Json
  | 0, _ => none
  | steps + 1, text =>
    match skipGap text with
    | '"' :: rest =>
      (readText rest.length.succ [] rest).map fun (text, rest) => (.string text, rest)
    | '[' :: rest =>
      match skipGap rest with
      | ']' :: rest => some (.list [], rest)
      | rest => (readItems steps [] rest).map fun (items, rest) => (.list items, rest)
    | '\x7b' :: rest =>
      match skipGap rest with
      | '\x7d' :: rest => some (.object [], rest)
      | rest => (readMembers steps [] rest).map fun (members, rest) => (.object members, rest)
    | 't' :: 'r' :: 'u' :: 'e' :: rest => some (.bool true, rest)
    | 'f' :: 'a' :: 'l' :: 's' :: 'e' :: rest => some (.bool false, rest)
    | 'n' :: 'u' :: 'l' :: 'l' :: rest => some (.null, rest)
    | rest => readNumber rest

def readItems : (steps : Nat) → List Json → List Char → Read (List Json)
  | 0, _, _ => none
  | steps + 1, before, text =>
    match readValue steps text with
    | none => none
    | some (item, rest) =>
      match skipGap rest with
      | ',' :: rest => readItems steps (item :: before) rest
      | ']' :: rest => some ((item :: before).reverse, rest)
      | _ => none

def readMembers : (steps : Nat) → List (String × Json) → List Char → Read (List (String × Json))
  | 0, _, _ => none
  | steps + 1, before, text =>
    match skipGap text with
    | '"' :: rest =>
      match readText rest.length.succ [] rest with
      | none => none
      | some (key, rest) =>
        match skipGap rest with
        | ':' :: rest =>
          match readValue steps rest with
          | none => none
          | some (value, rest) =>
            match skipGap rest with
            | ',' :: rest => readMembers steps ((key, value) :: before) rest
            | '\x7d' :: rest => some (((key, value) :: before).reverse, rest)
            | _ => none
        | _ => none
    | _ => none

end

/-- The value that a text writes, with nothing but gaps behind it. -/
def ofText? (text : String) : Option Json :=
  match readValue (text.length + 1) text.toList with
  | some (value, rest) => if (skipGap rest).isEmpty then some value else none
  | none => none

end Elevation.Json
