import Elevation.Standin.Web.Url

/-!
References, which are followed from the address at which they were found.

A reference that names an authority, or a scheme of another kind, stands for itself. Any other one
takes what it lacks from the address, and its path is walked from the directory of the address.
-/
namespace Elevation.Standin

/-- A reference cut into its parts; one that is missing is empty. -/
structure Reference where
  scheme : String
  authority : String
  path : List Char
  /-- What follows a semicolon in the last segment of the path. -/
  parameters : List Char
  query : String
  fragment : String
  deriving DecidableEq, Repr

structure NoAddress where
  inside : String
  deriving DecidableEq, Repr

def NoAddress.message (fault : NoAddress) : String :=
  Text.quoted fault.inside ++ " does not appear to be an IPv4 or IPv6 address"

namespace Reference

/-! ### Schemes -/

/-- Schemes under which a reference may leave out what its address has, and an authority may
stand. -/
def hierarchicalSchemes : List String :=
  ["", "ftp", "http", "gopher", "nntp", "imap", "wais", "file", "https", "shttp", "mms", "prospero",
    "rtsp", "rtsps", "rtspu", "sftp", "svn", "svn+ssh", "ws", "wss"]

/-- Schemes whose addresses name an authority, though references are not followed from them. -/
def authoritySchemes : List String :=
  hierarchicalSchemes ++ ["telnet", "snews", "rsync", "nfs", "git", "git+ssh"]

def parameterSchemes : List String :=
  ["", "ftp", "hdl", "prospero", "http", "imap", "https", "shttp", "rtsp", "rtsps", "rtspu", "sip",
    "sips", "mms", "sftp", "tel"]

/-! ### Cutting -/

def bracketed? (authority : List Char) : Option (List Char) :=
  match authority.dropWhile (· ≠ '[') with
  | [] => none
  | _ :: inside => some (inside.takeWhile (· ≠ ']'))

/-- The path, and the parameters in its last segment. -/
def cutParameters (path : List Char) : List Char × List Char :=
  let last := (path.reverse.takeWhile (· ≠ '/')).reverse
  let (segment, parameters) := last.span (· ≠ ';')
  (path.take (path.length - last.length) ++ segment, parameters.drop 1)

/-- The reference that a text writes; it has the usual scheme if it names none. -/
def ofText (usual text : String) : Except NoAddress Reference :=
  let (scheme, rest) := Url.takeScheme text.toList
  let scheme := if scheme.isEmpty then usual else Url.lowerAscii (String.ofList scheme)
  let (authority, rest) := Url.takeAuthority rest
  let (path, rest) := Url.spanUntil ['?', '#'] rest
  let (query, rest) := Url.takeMarked '?' ['#'] rest
  let (fragment, _) := Url.takeMarked '#' [] rest
  let (path, parameters) :=
    if parameterSchemes.contains scheme then cutParameters path else (path, [])
  match (bracketed? authority).filter fun inside => !Url.isIPv6 inside with
  | some inside => .error ⟨String.ofList inside⟩
  | none =>
    .ok ⟨scheme, String.ofList authority, path, parameters, query.getD "", fragment.getD ""⟩

/-! ### Writing -/

/-- The authority and the path. Two slashes stand before an authority, before every path under a
scheme that has one, and before a path that would be taken for one. -/
def placed (reference : Reference) (path : List Char) : String :=
  let named := authoritySchemes.contains reference.scheme && !reference.scheme.isEmpty
  if !reference.authority.isEmpty || named || ['/', '/'].isPrefixOf path then
    let slash := if path ≠ [] && path.head? ≠ some '/' then "/" else ""
    "//" ++ reference.authority ++ slash ++ String.ofList path
  else String.ofList path

def text (reference : Reference) : String :=
  let parameters := if reference.parameters.isEmpty then [] else ';' :: reference.parameters
  (if reference.scheme.isEmpty then "" else reference.scheme ++ ":")
    ++ reference.placed (reference.path ++ parameters)
    ++ (if reference.query.isEmpty then "" else "?" ++ reference.query)
    ++ (if reference.fragment.isEmpty then "" else "#" ++ reference.fragment)

/-! ### Following -/

/-- Walks along segments: a single dot stays where it is and two dots go back, if there is anything
to go back to. What was walked stands in reverse. -/
def walk (walked : List (List Char)) : List (List Char) → List (List Char)
  | [] => walked.reverse
  | segment :: rest =>
    if segment = ['.', '.'] then walk (walked.drop 1) rest
    else if segment = ['.'] then walk walked rest
    else walk (segment :: walked) rest

/-- The segments without empty ones between the first and the last. -/
def withoutGaps : List (List Char) → List (List Char)
  | [] => []
  | first :: rest => first :: rest.dropLast.filter (· ≠ []) ++ rest.getLast?.toList

def directory (path : List Char) : List (List Char) :=
  let segments := Url.splitAt '/' path
  if segments.getLast? = some [] then segments else segments.dropLast

def followPath (base path : List Char) : List Char :=
  let segments :=
    if path.head? = some '/' then Url.splitAt '/' path
    else withoutGaps (directory base ++ Url.splitAt '/' path)
  let endsInDots := segments.getLast? = some ['.'] || segments.getLast? = some ['.', '.']
  let walked := List.intercalate ['/'] (walk [] segments ++ if endsInDots then [[]] else [])
  if walked.isEmpty then ['/'] else walked

/-- A reference without a path keeps the path of its address, and its query unless it has one. -/
def follow (base reference : Reference) : Reference :=
  if reference.path.isEmpty && reference.parameters.isEmpty then
    { reference with
      path := base.path
      parameters := base.parameters
      query := if reference.query.isEmpty then base.query else reference.query }
  else { reference with path := followPath base.path reference.path }

def resolve (address reference : String) : Except NoAddress String :=
  if address.isEmpty then .ok reference
  else if reference.isEmpty then .ok address
  else do
    let base ← ofText "" address
    let target ← ofText base.scheme reference
    if target.scheme ≠ base.scheme || !hierarchicalSchemes.contains target.scheme then
      .ok reference
    else if !target.authority.isEmpty then .ok target.text
    else .ok (follow base { target with authority := base.authority }).text

end Reference

end Elevation.Standin
