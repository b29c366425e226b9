import Elevation.Text.Quoted

/-!
Why a text is no web address, and why a text cannot be written in ASCII.
-/
namespace Elevation.Standin.Url

inductive Part where
  | scheme
  | authority
  | path
  | query
  | fragment
  | host
  deriving DecidableEq, Repr

def Part.name : Part → String
  | scheme => "scheme"
  | authority => "authority"
  | path => "path"
  | query => "query"
  | fragment => "fragment"
  | host => "host"

inductive Fault where
  | tooLong
  /-- A control character at a place of the text. -/
  | control (c : Char) (place : Nat)
  | partTooLong (part : Part)
  | controlInPart (part : Part) (c : Char) (place : Nat)
  | port (text : String)
  | ipv4 (host : String)
  | ipv6 (host : String)
  | hostname (host : String)
  | pathWithoutSlash
  | relativeDoubleSlash
  | relativeColon
  deriving DecidableEq, Repr

def controlMessage (whole : String) (c : Char) (place : Nat) : String :=
  "Invalid non-printable ASCII character in URL" ++ whole ++ ", "
    ++ Text.quoted (String.singleton c) ++ " at position " ++ toString place ++ "."

def Fault.message : Fault → String
  | .tooLong => "URL too long"
  | .control c place => controlMessage "" c place
  | .partTooLong part => "URL component '" ++ part.name ++ "' too long"
  | .controlInPart part c place => controlMessage (" " ++ part.name ++ " component") c place
  | .port text => "Invalid port: " ++ Text.quoted text
  | .ipv4 host => "Invalid IPv4 address: " ++ Text.quoted host
  | .ipv6 host => "Invalid IPv6 address: " ++ Text.quoted host
  | .hostname host => "Invalid IDNA hostname: " ++ Text.quoted host
  | .pathWithoutSlash => "For absolute URLs, path must be empty or begin with '/'"
  | .relativeDoubleSlash => "Relative URLs cannot have a path starting with '//'"
  | .relativeColon => "Relative URLs cannot have a path starting with ':'"

end Elevation.Standin.Url

namespace Elevation.Standin.Text

open Elevation.Text

/-- Characters `start` to `stop`, both included, are not in ASCII; `code` is the first of them. -/
structure AsciiFault where
  code : Nat
  start : Nat
  stop : Nat
  deriving DecidableEq, Repr

def isAsciiChar (c : Char) : Bool := c.toNat < 0x80

def asciiFault? (text : String) : Option AsciiFault :=
  let (before, rest) := text.toList.span isAsciiChar
  match rest with
  | [] => none
  | c :: after =>
    let run := after.takeWhile fun c => !isAsciiChar c
    some ⟨c.toNat, before.length, before.length + run.length⟩

def AsciiFault.message (fault : AsciiFault) : String :=
  let place :=
    if fault.start = fault.stop then
      "character '" ++ String.ofList (escapedCode fault.code) ++ "' in position "
        ++ toString fault.start
    else
      "characters in position " ++ toString fault.start ++ "-" ++ toString fault.stop
  "'ascii' codec can't encode " ++ place ++ ": ordinal not in range(128)"

end Elevation.Standin.Text
