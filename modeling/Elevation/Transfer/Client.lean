import Elevation.Failure

/-!
Fetching a file over the web.

Two libraries stand behind a transfer, and both are parameters: one sends requests, follows redirects
and hands out the body of an answer piece by piece; the other repeats an action that has failed. An
attempt insists on success and only then opens the destination, which receives the pieces one after the
other. Each attempt starts the destination anew.
-/
namespace Elevation.Transfer

/-- What a transfer left in its destination, nothing if it was never opened, and how it ended. -/
structure Delivery where
  content : Option ByteArray
  result : Except Failure Unit

/-- Whatever copies the file at an address to a destination. It is told whether the destination
can be written; `σ` is its own state. -/
abbrev Downloader (σ : Type) := String → Except Disk.Refusal Unit → σ → Delivery × σ

/-! ### The library that talks to the far side -/

structure Request where
  url : String
  userAgent : String
  timeout : Float
  pieceBytes : Nat

/-- An answer behind all redirects. Its body comes in pieces and may break off with a failure;
`complaint` is what the library raises when it is asked to insist on success. -/
structure Answer where
  status : Int
  complaint : Option Failure
  pieces : List ByteArray
  broken : Option Failure

structure Web (σ : Type) where
  stream : Request → σ → Except Failure Answer × σ

def Answer.IsSuccess (answer : Answer) : Prop := 200 ≤ answer.status ∧ answer.status < 300

/-- As the library says: it complains of every answer that is no success, and of no other. -/
def Web.Complains {σ : Type} (web : Web σ) : Prop :=
  ∀ request far answer after, web.stream request far = (.ok answer, after) →
    (answer.complaint = none ↔ answer.IsSuccess)

/-! ### The library that repeats -/

/-- When an action is repeated: how often it is tried at most, by which factor and between which bounds
the pauses grow, and the classes of failures that may pass. -/
structure Policy where
  attempts : Nat
  multiplier : Nat
  leastPause : Nat
  mostPause : Nat
  passing : List String

def Policy.retries (policy : Policy) (failure : Failure) : Bool :=
  policy.passing.any failure.lineage.isA

/-- `resume policy number action` makes attempts at an action, the next one being number `number`, and
`pause` is what waiting behind an attempt does to everything beyond. -/
structure Retrier (σ : Type) where
  resume : {τ : Type} → Policy → (number : Nat) → (τ × σ → Except Failure Unit × τ × σ) →
    τ × σ → Except Failure Unit × τ × σ
  pause : Policy → (number : Nat) → σ → σ

/-- As the library says: an attempt that succeeds is the last one, and so is one whose failure is of no
class to be tried again, and the one with the greatest number. Any other one is followed by a pause and
the next. -/
structure Retrier.Repeats {σ : Type} (retrier : Retrier σ) : Prop where
  returns : ∀ {τ : Type} (policy : Policy) (number : Nat) (action : τ × σ → Except Failure Unit × τ × σ)
    (state : τ × σ), (action state).1 = .ok () →
      retrier.resume policy number action state = action state
  gives_up : ∀ {τ : Type} (policy : Policy) (number : Nat) (action : τ × σ → Except Failure Unit × τ × σ)
    (state : τ × σ) (failure : Failure), (action state).1 = .error failure →
      policy.retries failure = false ∨ policy.attempts ≤ number →
        retrier.resume policy number action state = action state
  goes_on : ∀ {τ : Type} (policy : Policy) (number : Nat) (action : τ × σ → Except Failure Unit × τ × σ)
    (state : τ × σ) (failure : Failure), (action state).1 = .error failure →
      policy.retries failure = true → number < policy.attempts →
        retrier.resume policy number action state =
          retrier.resume policy (number + 1) action
            ((action state).2.1, retrier.pause policy number (action state).2.2)

/-! ### Attempts -/

def pieceBytes : Nat := 1024 * 1024

def Policy.usual : Policy :=
  ⟨3, 1, 1, 10, ["TransportError", "ConnectionError", "TimeoutError"]⟩

structure Client where
  timeout : Float
  userAgent : String

def defaultTimeout : Float := 60.0

def defaultUserAgent : String := "chuk-mcp-srtm/0.1.0"

def Client.usual : Client := ⟨defaultTimeout, defaultUserAgent⟩

namespace Client

variable {σ : Type}

def request (client : Client) (url : String) : Request :=
  ⟨url, client.userAgent, client.timeout, pieceBytes⟩

def written (pieces : List ByteArray) : ByteArray :=
  pieces.foldl (fun file piece => if piece.isEmpty then file else file ++ piece) .empty

/-- One attempt at an address. It is given, and gives back, what was written so far and the far side. -/
def attempt (web : Web σ) (client : Client) (url : String) (destination : Except Disk.Refusal Unit) :
    Option ByteArray × σ → Except Failure Unit × Option ByteArray × σ
  | (content, far) =>
    match web.stream (client.request url) far with
    | (.error failure, far) => (.error failure, content, far)
    | (.ok answer, far) =>
      match answer.complaint, destination with
      | some failure, _ => (.error failure, content, far)
      | none, .error refusal => (.error (.refused refusal), content, far)
      | none, .ok () =>
        (match answer.broken with
          | none => .ok ()
          | some failure => .error failure,
          some (written answer.pieces), far)

def fetch (web : Web σ) (retrier : Retrier σ) (client : Client) : Downloader σ :=
  fun url destination far =>
    let (result, content, far) := retrier.resume .usual 1 (client.attempt web url destination) (none, far)
    (⟨content, result⟩, far)

end Client

end Elevation.Transfer
