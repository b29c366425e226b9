import Elevation.Text.Utf8

/-!
Escapes in web addresses: a percent sign and the two hexadecimal digits of a byte.

Each part of an address has its own safe characters; all others are escaped byte by byte. Escapes
that are there already stay. Taking escapes back gives the text that their bytes encode.
-/
namespace Elevation.Standin.Url

def isHex (c : Char) : Bool := c.isDigit || ('a' ≤ c && c ≤ 'f') || ('A' ≤ c && c ≤ 'F')

def escapedChar (c : Char) : List Char :=
  (String.singleton c).toUTF8.data.toList.flatMap fun byte =>
    '%' :: (Text.hexDigits 2 byte.toNat).map Char.toUpper

/-- Escapes every character that is not safe; escapes that are there already stay. -/
def escape (safe : Char → Bool) : List Char → List Char
  | [] => []
  | '%' :: a :: b :: rest =>
    if isHex a && isHex b then '%' :: a :: b :: escape safe rest
    else (if safe '%' then ['%'] else escapedChar '%') ++ escape safe (a :: b :: rest)
  | c :: rest => (if safe c then [c] else escapedChar c) ++ escape safe rest

def escapeText (safe : Char → Bool) (text : String) : String :=
  String.ofList (escape safe text.toList)

/-! ### Safe characters -/

def printableBut (barred : List Char) (c : Char) : Bool :=
  33 ≤ c.toNat && c.toNat ≤ 126 && !barred.contains c

def barredInQuery : List Char := ['"', '#', '<', '>']
def barredInPath : List Char := barredInQuery ++ ['?', '\x60', '\x7b', '\x7d']
def barredInUser : List Char := barredInPath ++ ['/', ';', '=', '@', '[', '\\', ']', '^', '|']
def barredInFragment : List Char := ['"', '<', '>', '\x60']

def safeInQuery : Char → Bool := printableBut barredInQuery
def safeInPath : Char → Bool := printableBut barredInPath
def safeInUser : Char → Bool := printableBut barredInUser
def safeInFragment : Char → Bool := printableBut barredInFragment

/-- Hosts have a list of their own, which bars the separators of an address. -/
def safeInHost : Char → Bool :=
  printableBut ['#', '/', ':', '<', '>', '?', '@', '[', ']', '^']

/-! ### Taking escapes back -/

def hexValue (c : Char) : Nat :=
  if c.isDigit then c.toNat - 48 else if 'a' ≤ c then c.toNat - 87 else c.toNat - 55

def bytesOf : List Char → List UInt8
  | [] => []
  | '%' :: a :: b :: rest =>
    if isHex a && isHex b then UInt8.ofNat (16 * hexValue a + hexValue b) :: bytesOf rest
    else '%'.toUInt8 :: bytesOf (a :: b :: rest)
  | c :: rest => (String.singleton c).toUTF8.data.toList ++ bytesOf rest

def unescapeText (text : String) : String :=
  String.ofList (Text.ofUtf8Lossy (bytesOf text.toList))

end Elevation.Standin.Url
