/-!
Prefix codes, in which shorter codes come before longer ones and equally long ones follow each
other.

Such a code is known once the length of every symbol's code is, so packed data bring along lengths
alone. Beside them stands what unpacking comes to, whatever the packing.
-/
namespace Elevation.Archive

/-- Why reading packed data stops: the data given so far end, or they are damaged. -/
inductive Halt where
  | starved
  | damaged (reason : String)
  deriving DecidableEq, Repr

def Halt.reason : Halt → String
  | .starved => ""
  | .damaged reason => reason

/-- A prefix code: how many codes there are of each length, and the symbols in code order. -/
structure Code where
  counts : Array Nat
  symbols : Array Nat

/-- The code whose symbols, from zero on, have codes of the lengths given; symbols of length zero
have none. -/
def Code.ofLengths (greatest : Nat) (lengths : List Nat) : Code :=
  let counts := lengths.foldl (fun counts length => counts.modify length (· + 1))
    (Array.replicate (greatest + 1) 0)
  let symbols := (List.range greatest).flatMap fun short =>
    (lengths.zipIdx.filter fun entry => entry.1 = short + 1).map Prod.snd
  ⟨counts, symbols.toArray⟩

/-- What packed bytes unpack to, as far as they reach, and whether the packed data end there. -/
structure Unpacked where
  data : ByteArray
  ended : Bool

end Elevation.Archive
