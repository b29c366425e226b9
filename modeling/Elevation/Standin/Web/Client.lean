import Elevation.Standin.Web.Coding
import Elevation.Standin.Web.Reference
import Elevation.Transfer.Client

/-!
A web library and a library that repeats actions, for runs of the program.

The far side is a list of replies, one for each request, the last one answering all further requests.
Redirects are followed from reply to reply. What transfers are proved to do holds with all libraries that
keep their word, as these two do.
-/
namespace Elevation.Standin

open Transfer (Policy Retrier Web)

def raise (name text : String) : Failure := .raised (.ofName name) text

/-- A body: all of it at once, or pieces that may break off with a failure. -/
inductive Body where
  | whole (bytes : ByteArray)
  | pieces (pieces : List ByteArray) (broken : Option Failure)

inductive Reply where
  | answer (status : Int) (fields : List (String × String)) (body : Body)
  | failure (failure : Failure)

/-- The replies to come, and what happened so far, the latest first. -/
structure Wire where
  replies : List Reply
  requests : List Transfer.Request
  pauses : List Nat

def noNetwork : Reply := .failure (raise "ConnectError" "no network")

def Wire.start (replies : List Reply) : Wire := ⟨replies, [], []⟩

/-- Sends a request: the next reply answers it, and the last one stays. -/
def Wire.send (wire : Wire) (request : Transfer.Request) : Reply × Wire :=
  match wire.replies with
  | [] => (noNetwork, { wire with requests := request :: wire.requests })
  | [reply] => (reply, { wire with requests := request :: wire.requests })
  | reply :: rest => (reply, { wire with replies := rest, requests := request :: wire.requests })

/-! ### Addresses -/

def requireAscii (text : String) : Except Failure Unit :=
  match Text.asciiFault? text with
  | some fault => .error (raise "UnicodeEncodeError" fault.message)
  | none => .ok ()

def badAddress (fault : Url.Fault) : Failure := raise "InvalidURL" fault.message

def badHostname (fault : Hostname.Fault) : Failure := raise fault.kind fault.message

def startingAt (address : String) : Except Failure Url := do
  let url ← (Url.ofText address).mapError badAddress
  let url ← url.requested.mapError badAddress
  let _ ← url.hostname.mapError badHostname
  requireAscii url.place
  .ok url

def cutFragment (text : List Char) : List Char × List Char :=
  (Url.splitLast? '#' text).getD (text, [])

def noAddress (fault : NoAddress) : Failure := raise "ValueError" fault.message

/-- Once something has answered at an address, the address has to begin with a scheme and to hold
an address between its square brackets. -/
def requireScheme (url : Url) : Except Failure Unit :=
  let (place, fragment) := cutFragment url.text.toList
  let (scheme, rest) := Url.spanUntil ['/', ':'] place
  if scheme.isEmpty || rest.head? ≠ some ':' then
    let shown := if fragment.isEmpty then place else url.text.toList
    .error (raise "ValueError" ("unknown url type: " ++ Text.quoted (String.ofList shown)))
  else (Reference.ofText "" url.text).mapError noAddress |>.map fun _ => ()

/-- The target with a host: that of the address at which the target was found, where it has a
scheme alone. -/
def withSomeHost (url target : Url) : Except Failure Url :=
  if target.scheme.isEmpty then .ok target
  else do
    let host ← target.hostname.mapError badHostname
    if host.isEmpty then
      let host ← url.hostname.mapError badHostname
      (target.withHost host).mapError badAddress
    else .ok target

def badLocation (fault : Url.Fault) : Failure :=
  raise "RemoteProtocolError" ("Invalid URL in location header: " ++ fault.message ++ ".")

/-- The address to which `location` points from another one. The fragment goes along unless there
is a new one. -/
def targetOf (url : Url) (location : String) : Except Failure Url := do
  let target ← (Url.ofText location).mapError badLocation
  let target ← withSomeHost url target
  let target ←
    if target.isAbsolute then .ok target
    else do
      let text ← (Reference.resolve url.text target.text).mapError noAddress
      (Url.ofText text).mapError badAddress
  let fragment := Url.unescapeText (url.fragment.getD "")
  let target ←
    if !fragment.isEmpty && (Url.unescapeText (target.fragment.getD "")).isEmpty then
      (target.withFragment fragment).mapError badAddress
    else .ok target
  let _ ← target.hostname.mapError badHostname
  requireAscii target.place
  .ok target

/-! ### Answers -/

structure Received where
  url : Url
  status : Int
  fields : List (String × String)
  content : ByteArray
  broken : Option Failure

/-- The values of all fields of a name, which is given in lower case. -/
def valuesOf (name : String) (fields : List (String × String)) : List String :=
  (fields.filter fun field => Url.lowerAscii field.1 = name).map Prod.snd

def badCoding (fault : Coding.Fault) : Failure := raise "DecodingError" fault.message

/-- Reads a reply. A body that came at once has to be whole. -/
def receive (url : Url) : Reply → Except Failure Received
  | .failure failure => .error failure
  | .answer status fields body => do
    fields.forM fun (name, value) => do
      requireAscii name
      requireAscii value
    let codings := valuesOf "content-encoding" fields
    match body with
    | .whole bytes =>
      let (content, fault) := Coding.decode codings [bytes]
      match fault with
      | some fault => .error (badCoding fault)
      | none => do
        requireScheme url
        .ok ⟨url, status, fields, content, none⟩
    | .pieces pieces broken => do
      requireScheme url
      let (content, fault) := Coding.decode codings pieces
      .ok ⟨url, status, fields, content, (fault.map badCoding).or broken⟩

def redirectStatuses : List Int := [301, 302, 303, 307, 308]

def Received.location? (answer : Received) : Option String :=
  match valuesOf "location" answer.fields with
  | [] => none
  | values =>
    if redirectStatuses.contains answer.status then some (String.intercalate ", " values) else none

def mostRedirects : Nat := 20

/-- Requests an address and follows redirects, of which `left` more are allowed. -/
def follow (request : Transfer.Request) (url : Url) (wire : Wire) :
    (left : Nat) → Except Failure Received × Wire
  | 0 => (.error (raise "TooManyRedirects" "Exceeded maximum allowed redirects."), wire)
  | left + 1 =>
    let (reply, wire) := wire.send { request with url := url.text }
    match receive url reply with
    | .error failure => (.error failure, wire)
    | .ok answer =>
      match answer.location? with
      | none => (.ok answer, wire)
      | some location =>
        match targetOf url location, answer.broken with
        | .error failure, _ | .ok _, some failure => (.error failure, wire)
        | .ok target, none => follow request target wire left

def statusReason : Int → String
  | 100 => "Continue" | 101 => "Switching Protocols" | 102 => "Processing" | 103 => "Early Hints"
  | 200 => "OK" | 201 => "Created" | 202 => "Accepted" | 203 => "Non-Authoritative Information"
  | 204 => "No Content" | 205 => "Reset Content" | 206 => "Partial Content"
  | 207 => "Multi-Status" | 208 => "Already Reported" | 226 => "IM Used"
  | 300 => "Multiple Choices" | 301 => "Moved Permanently" | 302 => "Found" | 303 => "See Other"
  | 304 => "Not Modified" | 305 => "Use Proxy" | 307 => "Temporary Redirect"
  | 308 => "Permanent Redirect"
  | 400 => "Bad Request" | 401 => "Unauthorized" | 402 => "Payment Required" | 403 => "Forbidden"
  | 404 => "Not Found" | 405 => "Method Not Allowed" | 406 => "Not Acceptable"
  | 407 => "Proxy Authentication Required" | 408 => "Request Timeout" | 409 => "Conflict"
  | 410 => "Gone" | 411 => "Length Required" | 412 => "Precondition Failed"
  | 413 => "Request Entity Too Large" | 414 => "Request-URI Too Long"
  | 415 => "Unsupported Media Type" | 416 => "Requested Range Not Satisfiable"
  | 417 => "Expectation Failed" | 418 => "I'm a teapot" | 421 => "Misdirected Request"
  | 422 => "Unprocessable Entity" | 423 => "Locked" | 424 => "Failed Dependency"
  | 425 => "Too Early" | 426 => "Upgrade Required" | 428 => "Precondition Required"
  | 429 => "Too Many Requests" | 431 => "Request Header Fields Too Large"
  | 451 => "Unavailable For Legal Reasons"
  | 500 => "Internal Server Error" | 501 => "Not Implemented" | 502 => "Bad Gateway"
  | 503 => "Service Unavailable" | 504 => "Gateway Timeout" | 505 => "HTTP Version Not Supported"
  | 506 => "Variant Also Negotiates" | 507 => "Insufficient Storage" | 508 => "Loop Detected"
  | 510 => "Not Extended" | 511 => "Network Authentication Required"
  | _ => ""

def statusClass (code : Int) : String :=
  match code / 100 with
  | 1 => "Informational response"
  | 3 => "Redirect response"
  | 4 => "Client error"
  | 5 => "Server error"
  | _ => "Invalid status code"

def complaint? (answer : Received) : Option Failure :=
  if answer.status / 100 = 2 then none
  else
    let code := toString answer.status
    some (raise "HTTPStatusError" (statusClass answer.status ++ " '" ++ code ++ " "
      ++ statusReason answer.status ++ "' for url '" ++ answer.url.text
      ++ "'\nFor more information check: https://developer.mozilla.org/en-US/docs/Web/HTTP/Status/" ++ code))

def piecesOf (size : Nat) (answer : Received) : List ByteArray :=
  let body := answer.content
  let whole := (List.range (body.size / size)).map fun i => body.extract (i * size) ((i + 1) * size)
  if answer.broken.isSome then whole else whole ++ [body.extract (body.size / size * size) body.size]

def web : Web Wire where
  stream request wire :=
    match requireAscii request.userAgent *> startingAt request.url with
    | .error failure => (.error failure, wire)
    | .ok url =>
      match follow request url wire (mostRedirects + 1) with
      | (.error failure, wire) => (.error failure, wire)
      | (.ok answer, wire) =>
        (.ok ⟨answer.status, complaint? answer, piecesOf request.pieceBytes answer, answer.broken⟩, wire)

/-- The pause behind an attempt in seconds: it doubles, between its bounds. -/
def pauseAfter (policy : Policy) (number : Nat) : Nat :=
  max policy.leastPause (min policy.mostPause (policy.multiplier * 1 <<< (number - 1)))

/-- Attempts at an action, the next one being number `number` and `left` more being allowed. -/
def repeated {τ σ : Type} (rest : Nat → σ → σ) (policy : Policy)
    (action : τ × σ → Except Failure Unit × τ × σ) :
    (left number : Nat) → τ × σ → Except Failure Unit × τ × σ
  | 0, _, state => action state
  | left + 1, number, state =>
    match action state with
    | (.ok (), state) => (.ok (), state)
    | (.error failure, result, far) =>
      if policy.retries failure then
        repeated rest policy action left (number + 1) (result, rest number far)
      else (.error failure, result, far)

/-- Repeats an action, with waiting as something that happens to the far side. -/
def repeater {σ : Type} (wait : Nat → σ → σ) : Retrier σ where
  resume policy number action state :=
    repeated (fun number far => wait (pauseAfter policy number) far) policy action
      (policy.attempts - number) number state
  pause policy number far := wait (pauseAfter policy number) far

def retrier : Retrier Wire :=
  repeater fun seconds wire => { wire with pauses := seconds :: wire.pauses }

/-! ### They keep their word -/

theorem complaint?_eq_none_iff (answer : Received) :
    complaint? answer = none ↔ 200 ≤ answer.status ∧ answer.status < 300 := by
  unfold complaint?
  by_cases success : answer.status / 100 = 2
  · rw [if_pos success]
    exact ⟨fun _ => by omega, fun _ => rfl⟩
  · rw [if_neg success]
    exact ⟨nofun, fun _ => by omega⟩

theorem complains_web : web.Complains := by
  intro request wire answer after answered
  simp only [web] at answered
  split at answered
  next => cases answered
  next =>
    split at answered
    next => cases answered
    next received _ _ =>
      cases answered
      exact complaint?_eq_none_iff received

section

variable {σ τ : Type} {rest : Nat → σ → σ} {policy : Policy}
  {action : τ × σ → Except Failure Unit × τ × σ} {state : τ × σ} {number : Nat}

theorem repeated_of_ok (ended : (action state).1 = .ok ()) (left : Nat) :
    repeated rest policy action left number state = action state := by
  cases left with
  | zero => rfl
  | succ left =>
    rw [repeated]
    generalize action state = outcome at ended ⊢
    obtain ⟨result, after⟩ := outcome
    cases ended
    rfl

theorem repeated_of_final {failure : Failure} (failed : (action state).1 = .error failure)
    (final : policy.retries failure = false) (left : Nat) :
    repeated rest policy action left number state = action state := by
  cases left with
  | zero => rfl
  | succ left =>
    rw [repeated]
    generalize action state = outcome at failed ⊢
    obtain ⟨result, after⟩ := outcome
    cases failed
    simp only [final, Bool.false_eq_true, ↓reduceIte]

theorem repeated_of_passing {failure : Failure} (failed : (action state).1 = .error failure)
    (passing : policy.retries failure = true) (left : Nat) :
    repeated rest policy action (left + 1) number state =
      repeated rest policy action left (number + 1)
        ((action state).2.1, rest number (action state).2.2) := by
  rw [repeated]
  generalize action state = outcome at failed ⊢
  obtain ⟨result, after⟩ := outcome
  cases failed
  simp only [passing, ↓reduceIte]

theorem repeats_repeater (wait : Nat → σ → σ) : (repeater wait).Repeats where
  returns _ _ _ _ ended := repeated_of_ok ended _
  gives_up policy number action state failure failed final := by
    rcases final with final | enough
    · exact repeated_of_final failed final _
    · simp only [repeater, Nat.sub_eq_zero_of_le enough, repeated]
  goes_on policy number action state failure failed passing more := by
    obtain ⟨left, room⟩ := Nat.exists_eq_add_of_lt more
    have now : policy.attempts - number = left + 1 := by omega
    have next : policy.attempts - (number + 1) = left := by omega
    simp only [repeater, now, next]
    exact repeated_of_passing failed passing left

end

end Elevation.Standin
