/-!
Character classes used when lists, numbers and codes are read: blanks, line breaks and decimal
digits of every script.

`trim` removes blanks at both ends. `lines` cuts a text after each line break, a carriage return
followed by a line feed counting as one. `digitValue?` reads a decimal digit whatever its script.
-/
namespace Elevation.Text

/-- Every blank character: the ASCII blanks and separators, and the spaces of other scripts. -/
def isBlank (c : Char) : Bool :=
  let n := c.toNat
  (9 ≤ n && n ≤ 13) || (28 ≤ n && n ≤ 32) || n == 0x85 || n == 0xa0 || n == 0x1680
    || (0x2000 ≤ n && n ≤ 0x200a) || n == 0x2028 || n == 0x2029 || n == 0x202f || n == 0x205f
    || n == 0x3000

/-- The blanks that are spaces or breaks of their own, the four ASCII separators left out. -/
def isSpace (c : Char) : Bool := isBlank c && !(28 ≤ c.toNat && c.toNat ≤ 31)

def trimLeft (blank : Char → Bool) (text : List Char) : List Char := text.dropWhile blank

def trimBy (blank : Char → Bool) (text : List Char) : List Char :=
  (trimLeft blank (trimLeft blank text).reverse).reverse

def trim (text : List Char) : List Char := trimBy isBlank text

def allBlank (text : List Char) : Bool := text.all isBlank

def isLineBreak (c : Char) : Bool :=
  let n := c.toNat
  (10 ≤ n && n ≤ 13) || (28 ≤ n && n ≤ 30) || n == 0x85 || n == 0x2028 || n == 0x2029

/-- Cuts a text into lines, `line` holding the characters of the open line in reverse. -/
def linesFrom (line : List Char) : List Char → List (List Char)
  | [] => if line.isEmpty then [] else [line.reverse]
  | '\r' :: '\n' :: rest => line.reverse :: linesFrom [] rest
  | c :: rest =>
    if isLineBreak c then line.reverse :: linesFrom [] rest else linesFrom (c :: line) rest

/-- The lines of a text without their breaks; a break at the very end opens no further line. -/
def lines (text : List Char) : List (List Char) := linesFrom [] text

/-- The code point of the digit zero in each script; its nine successors are the other digits. -/
def zeroDigits : List Nat := [
  0x30, 0x660, 0x6f0, 0x7c0, 0x966, 0x9e6, 0xa66, 0xae6, 0xb66, 0xbe6,
  0xc66, 0xce6, 0xd66, 0xde6, 0xe50, 0xed0, 0xf20, 0x1040, 0x1090, 0x17e0,
  0x1810, 0x1946, 0x19d0, 0x1a80, 0x1a90, 0x1b50, 0x1bb0, 0x1c40, 0x1c50, 0xa620,
  0xa8d0, 0xa900, 0xa9d0, 0xa9f0, 0xaa50, 0xabf0, 0xff10, 0x104a0, 0x10d30, 0x11066,
  0x110f0, 0x11136, 0x111d0, 0x112f0, 0x11450, 0x114d0, 0x11650, 0x116c0, 0x11730, 0x118e0,
  0x11950, 0x11c50, 0x11d50, 0x11da0, 0x16a60, 0x16ac0, 0x16b50, 0x1d7ce, 0x1d7d8, 0x1d7e2,
  0x1d7ec, 0x1d7f6, 0x1e140, 0x1e2f0, 0x1e950, 0x1fbf0]

def digitValue? (c : Char) : Option Nat :=
  (zeroDigits.find? fun origin => origin ≤ c.toNat && c.toNat < origin + 10).map (c.toNat - ·)

def isAsciiDigit (c : Char) : Bool := '0' ≤ c && c ≤ '9'

/-- The number that a list of digits writes in base ten, `start` standing before them. -/
def ofDigitsFrom (start : Nat) (digits : List Nat) : Nat := digits.foldl (10 * · + ·) start

def ofDigits (digits : List Nat) : Nat := ofDigitsFrom 0 digits

def startsWith (pattern text : List Char) : Bool := pattern.isPrefixOf text

end Elevation.Text
