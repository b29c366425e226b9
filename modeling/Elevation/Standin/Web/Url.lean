import Elevation.Decimal.Read
import Elevation.Standin.Hostname.Domain
import Elevation.Standin.Web.Address
import Elevation.Standin.Web.Escape
import Elevation.Standin.Web.Fault

/-!
Web addresses.

A text is cut into five parts: scheme, authority, path, query and fragment. The parts are then
brought into normal form: scheme and host in lower case, the host in ASCII, the port a number that
is left out where the scheme implies it, the path without dot segments, and everything escaped that
may not stand in its part.
-/
namespace Elevation.Standin

structure Url where
  scheme : String
  user : String
  host : String
  port : Option Int
  path : String
  query : Option String
  fragment : Option String
  deriving DecidableEq, Repr

namespace Url

/-! ### Cutting -/

structure Parts where
  scheme : String
  authority : String
  path : String
  query : Option String
  fragment : Option String
  deriving DecidableEq, Repr

def spanUntil (stops : List Char) (text : List Char) : List Char × List Char :=
  text.span fun c => !stops.contains c

def isSchemeChar (c : Char) : Bool := c.isAlphanum || c = '+' || c = '.' || c = '-'

def takeScheme (text : List Char) : List Char × List Char :=
  let (front, rest) := text.span isSchemeChar
  match front, rest with
  | c :: _, ':' :: rest => if c.isAlpha then (front, rest) else ([], text)
  | _, _ => ([], text)

def takeMarked (mark : Char) (stops text : List Char) : Option String × List Char :=
  match text with
  | c :: rest =>
    if c = mark then
      let (part, rest) := spanUntil stops rest
      (some (String.ofList part), rest)
    else (none, text)
  | [] => (none, [])

def takeAuthority (text : List Char) : List Char × List Char :=
  match text with
  | '/' :: '/' :: rest => spanUntil ['/', '?', '#'] rest
  | rest => ([], rest)

/-- The parts of an address. A colon in front ends a scheme without characters. -/
def Parts.ofText (text : String) : Parts :=
  let (scheme, rest) :=
    match text.toList with
    | ':' :: rest => ([], rest)
    | text => takeScheme text
  let (authority, rest) := takeAuthority rest
  let (path, rest) := spanUntil ['?', '#'] rest
  let (query, rest) := takeMarked '?' ['#'] rest
  let (fragment, _) := takeMarked '#' [] rest
  ⟨String.ofList scheme, String.ofList authority, String.ofList path, query, fragment⟩

def splitLast? (mark : Char) (text : List Char) : Option (List Char × List Char) :=
  if text.contains mark then
    let after := (text.reverse.takeWhile (· ≠ mark)).reverse
    some (text.take (text.length - after.length - 1), after)
  else none

/-- The user, the host and the port of an authority. Square brackets hold a host together. -/
def cutAuthority (authority : String) : String × String × String :=
  let text := authority.toList
  let (user, rest) := (splitLast? '@' text).getD ([], text)
  let (host, rest) :=
    match rest.head?, splitLast? ']' rest with
    | some '[', some (inside, rest) => (inside ++ [']'], rest)
    | _, _ => spanUntil [':'] rest
  let port :=
    match rest with
    | ':' :: port => port
    | port => port
  (String.ofList user, String.ofList host, String.ofList port)

/-! ### Normal form -/

def lowerAscii (text : String) : String := String.ofList (text.toList.map Char.toLower)

/-- The host in ASCII; an address in square brackets stands without them. -/
def plainHost (host : String) : Except Fault String :=
  let text := host.toList
  if host.isEmpty then .ok ""
  else if looksLikeIPv4 text then if isIPv4 text then .ok host else .error (.ipv4 host)
  else if text.head? = some '[' && text.getLast? = some ']' && 2 ≤ text.length then
    let inside := (text.drop 1).dropLast
    if isIPv6 inside then .ok (String.ofList inside) else .error (.ipv6 host)
  else if text.all fun c => c.toNat < 0x80 then .ok (escapeText safeInHost (lowerAscii host))
  else
    match Hostname.encode (Hostname.lower host) with
    | .ok host => .ok host
    | .error _ => .error (.hostname host)

def usualPort (scheme : String) : Option Int :=
  [("http", 80), ("https", 443), ("ws", 80), ("wss", 443), ("ftp", 21)].lookup scheme

/-- The port, unless it is the usual one of the scheme as that was written. -/
def plainPort (scheme port : String) : Except Fault (Option Int) :=
  if port.isEmpty then .ok none
  else
    match Decimal.argumentInt? port with
    | none => .error (.port port)
    | some port => .ok (if usualPort scheme = some port then none else some port)

/-- The segments without single dots; two dots take the segment before them away, but for an empty
one at the start. What was kept stands in reverse. -/
def withoutDots (kept : List (List Char)) : List (List Char) → List (List Char)
  | [] => kept.reverse
  | segment :: rest =>
    if segment = ['.'] then withoutDots kept rest
    else if segment = ['.', '.'] then
      withoutDots (if kept = [[]] then kept else kept.drop 1) rest
    else withoutDots (segment :: kept) rest

def joinSegments (segments : List (List Char)) : String :=
  String.ofList (List.intercalate ['/'] segments)

def plainPath (path : String) : String := joinSegments (withoutDots [] (splitAt '/' path.toList))

/-- What is wrong with a path behind a scheme and an authority, or behind neither. -/
def pathFault? (hasScheme hasAuthority : Bool) (path : List Char) : Option Fault :=
  if hasAuthority then
    if path ≠ [] && path.head? ≠ some '/' then some .pathWithoutSlash else none
  else if hasScheme then none
  else if ['/', '/'].isPrefixOf path then some .relativeDoubleSlash
  else if path.head? = some ':' then some .relativeColon
  else none

/-- The address of some parts, in normal form. A host that is given goes before the one in the
authority. -/
def ofParts (parts : Parts) (given : Option String) : Except Fault Url := do
  let (user, host, port) := cutAuthority parts.authority
  let user := escapeText safeInUser user
  let host ← plainHost (given.getD host)
  let port ← plainPort parts.scheme port
  let hasScheme := !parts.scheme.isEmpty
  let hasAuthority := !user.isEmpty || !host.isEmpty || port.isSome
  match pathFault? hasScheme hasAuthority parts.path.toList with
  | some fault => .error fault
  | none =>
    let path := if hasScheme || hasAuthority then plainPath parts.path else parts.path
    .ok
      { scheme := lowerAscii parts.scheme
        user := user
        host := host
        port := port
        path := escapeText safeInPath path
        query := parts.query.map (escapeText safeInQuery)
        fragment := parts.fragment.map (escapeText safeInFragment) }

/-! ### Reading -/

def longest : Nat := 65536

def isControl (c : Char) : Bool := c.toNat < 32 || c.toNat = 127

def firstControl? (text : String) : Option (Char × Nat) :=
  let (before, rest) := text.toList.span fun c => !isControl c
  rest.head?.map (·, before.length)

def ofText (text : String) : Except Fault Url :=
  if longest < text.length then .error .tooLong
  else
    match firstControl? text with
    | some (c, place) => .error (.control c place)
    | none => ofParts (.ofText text) none

def partFault? (part : Part) (text : Option String) : Option Fault :=
  match text with
  | none => none
  | some text =>
    if longest < text.length then some (.partTooLong part)
    else (firstControl? text).map fun (c, place) => .controlInPart part c place

def ofNewParts (parts : Parts) (given : Option String) : Except Fault Url :=
  let fault :=
    (partFault? .scheme (some parts.scheme)).or <| (partFault? .authority (some parts.authority)).or
      <| (partFault? .path (some parts.path)).or <| (partFault? .query parts.query).or
      <| (partFault? .fragment parts.fragment).or (partFault? .host given)
  match fault with
  | some fault => .error fault
  | none => ofParts parts given

/-! ### Writing -/

/-- The host and the port; a host with colons stands in square brackets. -/
def place (url : Url) : String :=
  (if url.host.toList.contains ':' then "[" ++ url.host ++ "]" else url.host)
    ++ match url.port with
      | none => ""
      | some port => ":" ++ toString port

def authority (url : Url) : String :=
  (if url.user.isEmpty then "" else url.user ++ "@") ++ url.place

def text (url : Url) : String :=
  (if url.scheme.isEmpty then "" else url.scheme ++ ":")
    ++ (if url.authority.isEmpty then "" else "//" ++ url.authority)
    ++ url.path
    ++ (match url.query with | none => "" | some query => "?" ++ query)
    ++ (match url.fragment with | none => "" | some fragment => "#" ++ fragment)

/-! ### Changing -/

def parts (url : Url) : Parts := ⟨url.scheme, url.authority, url.path, url.query, url.fragment⟩

def withHost (url : Url) (host : String) : Except Fault Url :=
  ofNewParts url.parts (some (if host.toList.contains ':' then "[" ++ host ++ "]" else host))

def withFragment (url : Url) (fragment : String) : Except Fault Url :=
  ofNewParts { url.parts with fragment := some fragment } none

def isAbsolute (url : Url) : Bool := !url.scheme.isEmpty && !url.host.isEmpty

/-- The address to which a request goes. One that does not say where it leads is taken from the root
of nowhere, without its fragment. -/
def requested (url : Url) : Except Fault Url :=
  if url.isAbsolute then .ok url
  else
    let path := String.ofList ('/' :: url.path.toList.dropWhile (· = '/'))
    ofNewParts ⟨"", "", path, url.query, none⟩ none

def hostname (url : Url) : Except Hostname.Fault String :=
  if Hostname.marker.isPrefixOf (Hostname.codes url.host) then Hostname.decode url.host
  else .ok url.host

end Url

end Elevation.Standin
