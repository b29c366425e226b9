/-!
The exact value of a binary floating-point number.

A finite double is a whole significand times a power of two; every rule on how a double is
written, rounded or cut to an integer is stated on these two numbers.
-/
namespace Elevation.Decimal

/-- A double taken apart: a finite one is `significand * 2 ^ exponent` with its sign. -/
inductive Binary where
  | finite (negative : Bool) (significand : Nat) (exponent : Int)
  | infinite (negative : Bool)
  | nan
  deriving DecidableEq, Repr

def Binary.lowestExponent : Int := -1074

def Binary.leadingBit : Nat := 1 <<< 52

def Binary.ofFloat (x : Float) : Binary :=
  let bits : Nat := x.toBits.toNat
  let negative := bits >>> 63 == 1
  let field : Nat := bits / leadingBit % 2048
  let fraction := bits % leadingBit
  if field = 2047 then if fraction = 0 then .infinite negative else .nan
  else if field = 0 then .finite negative fraction lowestExponent
  else .finite negative (leadingBit + fraction) ((field : Int) - 1075)

structure Ratio where
  num : Nat
  den : Nat
  deriving DecidableEq, Repr

def Ratio.scaled (significand : Nat) (exponent : Int) : Ratio :=
  if 0 ≤ exponent then ⟨significand <<< exponent.toNat, 1⟩
  else ⟨significand, 1 <<< (-exponent).toNat⟩

/-- The whole number nearest to a fraction, a tie going to the even neighbour. -/
def roundDiv (num den : Nat) : Nat :=
  let quotient := num / den
  let twice := 2 * (num % den)
  if twice < den then quotient
  else if den < twice then quotient + 1
  else quotient + quotient % 2

/-- The whole number nearest to `n` that a double can have, sizes aside. -/
def nearestWhole (n : Nat) : Nat :=
  let dropped := n.log2 + 1 - 53
  roundDiv n (1 <<< dropped) <<< dropped

def signed (negative : Bool) (magnitude : Nat) : Int :=
  if negative then -(magnitude : Int) else magnitude

end Elevation.Decimal
