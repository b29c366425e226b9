import Elevation.Text.Printable

/-!
Quoted forms of texts and bytes, as they stand in error messages.

A text stands between single quotes, or between double quotes when it holds a single quote and no
double one. A backslash and the enclosing quote are escaped; tab, line feed and carriage return
have short escapes; hidden characters are written by code point in lower-case hexadecimal.
-/
namespace Elevation.Text

def hexDigit (n : Nat) : Char := if n < 10 then Char.ofNat (48 + n) else Char.ofNat (87 + n)

/-- The lowest `places` hexadecimal digits of `n`, high digit first. -/
def hexDigits (places n : Nat) : List Char :=
  (List.range places).map fun i => hexDigit ((n >>> (4 * (places - 1 - i))) % 16)

def escapedCode (n : Nat) : List Char :=
  if n < 0x100 then '\\' :: 'x' :: hexDigits 2 n
  else if n < 0x10000 then '\\' :: 'u' :: hexDigits 4 n
  else '\\' :: 'U' :: hexDigits 8 n

def quotedChar (quote c : Char) : List Char :=
  if c = '\\' || c = quote then ['\\', c]
  else if c = '\n' then ['\\', 'n']
  else if c = '\r' then ['\\', 'r']
  else if c = '\t' then ['\\', 't']
  else if isHidden c then escapedCode c.toNat
  else [c]

def quoteFor (text : List Char) : Char :=
  if text.contains '\'' && !text.contains '"' then '"' else '\''

def quoted (text : String) : String :=
  let quote := quoteFor text.toList
  String.ofList (quote :: text.toList.flatMap (quotedChar quote) ++ [quote])

/-- The quoted form of code points, those that are no characters being escaped. -/
def quotedCodes (codes : List Nat) : String :=
  let quote := quoteFor (codes.map Char.ofNat)
  let shown (code : Nat) : List Char :=
    if (Char.ofNat code).toNat = code then quotedChar quote (Char.ofNat code) else escapedCode code
  String.ofList (quote :: codes.flatMap shown ++ [quote])

def quotedByte (quote : Char) (byte : UInt8) : List Char :=
  let c := Char.ofNat byte.toNat
  if c = '\\' || c = quote then ['\\', c]
  else if c = '\n' then ['\\', 'n']
  else if c = '\r' then ['\\', 'r']
  else if c = '\t' then ['\\', 't']
  else if byte < 32 || 127 ≤ byte then escapedCode byte.toNat
  else [c]

/-- Bytes are quoted like text and marked by a leading letter; all but ASCII is escaped. -/
def quotedBytes (bytes : List UInt8) : String :=
  let quote := quoteFor (bytes.map fun byte => Char.ofNat byte.toNat)
  String.ofList ('b' :: quote :: bytes.flatMap (quotedByte quote) ++ [quote])

end Elevation.Text
