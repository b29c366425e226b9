import Elevation.Standin.Hostname.Label
import Elevation.Standin.Hostname.Lowercase

/-!
Host names as domains: labels with dots between them.

Every kind of full stop separates labels when a domain is read, and plain dots do when it is
written. A single dot may stand at the end.
-/
namespace Elevation.Standin.Hostname

/-- The dot, and the full stops that stand for it beside ideographs and in full and half width. -/
def isDot (code : Nat) : Bool :=
  code = 0x2e || code = 0x3002 || code = 0xff0e || code = 0xff61

/-- The labels between dots, `label` being the one in front in reverse. -/
def labelsFrom (label : List Nat) : List Nat → List (List Nat)
  | [] => [label.reverse]
  | code :: rest =>
    if isDot code then label.reverse :: labelsFrom [] rest else labelsFrom (code :: label) rest

def labelsOf (domain : List Nat) : Except Fault (List (List Nat) × Bool) :=
  let labels := labelsFrom [] domain
  if longestDomain < domain.length then .error .domainTooLong
  else if labels = [[]] then .error .emptyDomain
  else if labels.getLast? = some [] then .ok (labels.dropLast, true)
  else .ok (labels, false)

def joinLabels (labels : List (List Nat)) (trailingDot : Bool) : List Nat :=
  List.intercalate [0x2e] labels ++ if trailingDot then [0x2e] else []

def codes (text : String) : List Nat := text.toList.map Char.toNat

def ofCodes (codes : List Nat) : String := String.ofList (codes.map Char.ofNat)

def encode (domain : String) : Except Fault String := do
  let (labels, trailingDot) ← labelsOf (codes domain)
  let written := joinLabels (← labels.mapM writeLabel) trailingDot
  if (if trailingDot then longestDomain else longestPlainDomain) < written.length then
    .error .domainTooLong
  else .ok (ofCodes written)

def decode (domain : String) : Except Fault String := do
  let (labels, trailingDot) ← labelsOf (codes domain)
  .ok (ofCodes (joinLabels (← labels.mapM readLabel) trailingDot))

def lower (name : String) : String := ofCodes (Text.lower (codes name))

end Elevation.Standin.Hostname
