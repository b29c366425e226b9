import Elevation.Proofs.Disk.Places
import Elevation.Proofs.Outcome
import Elevation.Provider.Basic
import Elevation.Standin.Web.Client

/-!
Repeated attempts at a file. Whatever the far side does, and whichever libraries send requests and repeat
what has failed, an attempt that fails for a passing reason is made again, three times at most, and the
last one decides: how it ends is how the whole ends, and if it ends well, the destination holds what its
own answer has brought and nothing else.
-/

namespace Elevation.Transfer

/-! ### Attempts in a row -/

/-- Failures of the transport and of connections, and time-outs, with all classes derived from these. -/
def IsPassing (failure : Failure) : Prop :=
  failure.lineage.isA "TransportError" = true ∨ failure.lineage.isA "ConnectionError" = true ∨
    failure.lineage.isA "TimeoutError" = true

theorem retries_usual_iff (failure : Failure) : Policy.usual.retries failure = true ↔ IsPassing failure := by
  simp [Policy.retries, Policy.usual, IsPassing]

section

variable {σ τ : Type} (retrier : Retrier σ) (action : τ × σ → Except Failure Unit × τ × σ)

/-- What the next attempt finds after attempt number `number`, which did not succeed, and the pause
behind it. -/
def followUp (number : Nat) (state : τ × σ) : τ × σ :=
  ((action state).2.1, retrier.pause .usual number (action state).2.2)

/-- Attempts from number `number` on, of which there are `count`: all but the last have failed for a
passing reason, each of them found everything as the one before had left it, and the last one finds it
as `last`. -/
inductive Trials : (number : Nat) → τ × σ → (count : Nat) → (last : τ × σ) → Prop
  | last (number : Nat) (state : τ × σ) : Trials number state 1 state
  | again {number count : Nat} {state last : τ × σ} {failure : Failure}
    (failed : (action state).1 = .error failure) (passing : IsPassing failure)
    (rest : Trials (number + 1) (followUp retrier action number state) count last) :
    Trials number state (count + 1) last

/-- The end of a row of attempts of which `limit` are allowed. -/
structure Ends (limit number : Nat) (state : τ × σ) (count : Nat) (last : τ × σ)
    (outcome : Except Failure Unit × τ × σ) : Prop where
  trials : Trials retrier action number state count last
  most : count ≤ limit
  stops : count < limit → ∀ failure, (action last).1 = .error failure → ¬ IsPassing failure
  outcome : outcome = action last

variable {retrier action}

theorem resume_of_stop (repeats : retrier.Repeats) {number : Nat} {state : τ × σ}
    (stops : ∀ failure, (action state).1 = .error failure → ¬ IsPassing failure ∨ 3 ≤ number) :
    retrier.resume .usual number action state = action state := by
  cases ended : (action state).1 with
  | ok _ => exact repeats.returns .usual number action state ended
  | error failure =>
    refine repeats.gives_up .usual number action state failure ended ?_
    rw [← Bool.not_eq_true, retries_usual_iff]
    exact stops failure ended

theorem exists_ends (repeats : retrier.Repeats) (left number : Nat) (allowed : number + left = 3)
    (state : τ × σ) : ∃ count last, Ends retrier action (left + 1) number state count last
      (retrier.resume .usual number action state) := by
  induction left generalizing number state with
  | zero =>
    have enough : 3 ≤ number := allowed.ge
    rw [resume_of_stop repeats fun _ _ => Or.inr enough]
    exact ⟨1, state, .last number state, le_rfl, fun more => absurd more (lt_irrefl 1), rfl⟩
  | succ left ih =>
    by_cases again : ∃ failure, (action state).1 = .error failure ∧ IsPassing failure
    · obtain ⟨failure, failed, passing⟩ := again
      have more : number < Policy.usual.attempts := by
        change number < 3
        omega
      obtain ⟨count, last, trials, most, stops, outcome⟩ :=
        ih (number + 1) (by omega) (followUp retrier action number state)
      rw [repeats.goes_on .usual number action state failure failed ((retries_usual_iff failure).mpr passing)
        more]
      exact ⟨count + 1, last, .again failed passing trials, by omega, fun more => stops (by omega), outcome⟩
    · have stops : ∀ failure, (action state).1 = .error failure → ¬ IsPassing failure :=
        fun failure failed passing => again ⟨failure, failed, passing⟩
      rw [resume_of_stop repeats fun failure failed => Or.inl (stops failure failed)]
      exact ⟨1, state, .last number state, by omega, fun _ => stops, rfl⟩

end

/-! ### One attempt -/

section

variable {σ : Type} {web : Web σ} {client : Client} {url : String} {far : σ} {answer : Answer}

def joined (pieces : List ByteArray) : ByteArray := pieces.foldl (· ++ ·) .empty

theorem written_eq_joined (pieces : List ByteArray) : Client.written pieces = joined pieces := by
  have skip (file piece : ByteArray) :
      (if piece.isEmpty then file else file ++ piece) = file ++ piece := by
    by_cases vacant : piece.isEmpty = true
    · obtain rfl : piece = .empty := by simpa [ByteArray.isEmpty] using vacant
      rw [if_pos vacant]
      exact ByteArray.append_empty.symm
    · rw [if_neg vacant]
  simp only [Client.written, joined, skip]

structure Completes (web : Web σ) (client : Client) (url : String) (far : σ) (answer : Answer) : Prop where
  answered : ∃ after, web.stream (client.request url) far = (.ok answer, after)
  success : answer.IsSuccess
  whole : answer.broken = none

theorem Completes.attempt (complains : web.Complains) (completes : Completes web client url far answer)
    (content : Option ByteArray) : ∃ after, client.attempt web url (.ok ()) (content, far) =
      (.ok (), some (joined answer.pieces), after) := by
  obtain ⟨⟨after, answered⟩, success, whole⟩ := completes
  have complaint : answer.complaint = none := (complains _ _ _ _ answered).mpr success
  exact ⟨after, by simp only [Client.attempt, answered, complaint, whole, written_eq_joined]⟩

/-- An attempt ends well just if it is answered by a success whose body comes to its end. -/
theorem attempt_ok_iff (complains : web.Complains) (content : Option ByteArray) :
    (client.attempt web url (.ok ()) (content, far)).1 = .ok () ↔
      ∃ answer, Completes web client url far answer := by
  constructor
  · intro ended
    rcases answered : web.stream (client.request url) far with ⟨failure | answer, after⟩
    · simp only [Client.attempt, answered, reduceCtorEq] at ended
    · cases complaint : answer.complaint with
      | some failure => simp only [Client.attempt, answered, complaint, reduceCtorEq] at ended
      | none =>
        cases broken : answer.broken with
        | some failure => simp only [Client.attempt, answered, complaint, broken, reduceCtorEq] at ended
        | none =>
          exact ⟨answer, ⟨after, answered⟩, (complains _ _ _ _ answered).mp complaint, broken⟩
  · rintro ⟨answer, completes⟩
    obtain ⟨after, attempted⟩ := completes.attempt complains content
    rw [attempted]

/-- What an attempt raises when it does not end well: what it raises for want of an answer, what is said of
an answer that is no success, or what breaks the body of a success off. -/
structure Raises (web : Web σ) (client : Client) (url : String) (state : Option ByteArray × σ) : Prop where
  failure : ∀ failure after, web.stream (client.request url) state.2 = (.error failure, after) →
    (client.attempt web url (.ok ()) state).1 = .error failure
  complaint : ∀ answer after, web.stream (client.request url) state.2 = (.ok answer, after) →
    ¬ answer.IsSuccess → ∃ failure, answer.complaint = some failure ∧
      (client.attempt web url (.ok ()) state).1 = .error failure
  broken : ∀ answer after failure, web.stream (client.request url) state.2 = (.ok answer, after) →
    answer.IsSuccess → answer.broken = some failure →
      (client.attempt web url (.ok ()) state).1 = .error failure

theorem raises (complains : web.Complains) (client : Client) (url : String)
    (state : Option ByteArray × σ) : Raises web client url state := by
  refine ⟨?_, ?_, ?_⟩
  · intro failure after answered
    simp only [Client.attempt, answered]
  · intro answer after answered unlike
    obtain ⟨failure, complaint⟩ := Option.ne_none_iff_exists'.mp
      (mt (complains _ _ _ _ answered).mp unlike)
    exact ⟨failure, complaint, by simp only [Client.attempt, answered, complaint]⟩
  · intro answer after failure answered success broken
    have complaint := (complains _ _ _ _ answered).mpr success
    simp only [Client.attempt, answered, complaint, broken]

/-! ### The last attempt -/

theorem read_deposit {disk : Disk.Tree} {path : Disk.Path} {spot : Disk.Place}
    (writable : disk.writable path = .ok spot) (bytes : ByteArray) :
    (Provider.deposit disk path (some bytes)).read path = .ok bytes := by
  obtain ⟨next, written, read⟩ := Disk.Tree.read_write writable bytes
  unfold Provider.deposit
  simp only [written, read]

theorem Ends.content {retrier : Retrier σ} {limit number count : Nat} {state last : Option ByteArray × σ}
    {outcome : Except Failure Unit × Option ByteArray × σ} (complains : web.Complains)
    (ends : Ends retrier (client.attempt web url (.ok ())) limit number state count last outcome)
    (completes : Completes web client url last.2 answer) : outcome.2.1 = some (joined answer.pieces) := by
  obtain ⟨content, far⟩ := last
  obtain ⟨after, attempted⟩ := completes.attempt complains content
  rw [ends.outcome, attempted]

end

/-- Attempts are not mixed. Of at most three, each but the last has failed for a passing reason, and
the last one decides: what it raises is raised, and if it is answered by a success whose body comes to
its end, the destination holds that body, whatever was there before. -/
theorem fetch_ends {σ : Type} {web : Web σ} {retrier : Retrier σ} (complains : web.Complains)
    (repeats : retrier.Repeats) (client : Client) (url : String) (far : σ) :
    let fetched := client.fetch web retrier url (.ok ()) far
    ∃ count last, Ends retrier (client.attempt web url (.ok ())) 3 1 (none, far) count last
        (fetched.1.result, fetched.1.content, fetched.2) ∧
      Raises web client url last ∧
      (fetched.1.result = .ok () ↔ ∃ answer, Completes web client url last.2 answer) ∧
      ∀ answer, Completes web client url last.2 answer →
        ∀ (disk : Disk.Tree) path spot, disk.writable path = .ok spot →
          (Provider.deposit disk path fetched.1.content).read path = .ok (joined answer.pieces) := by
  intro fetched
  have whole : (fetched.1.result, fetched.1.content, fetched.2) =
      retrier.resume .usual 1 (client.attempt web url (.ok ())) (none, far) := rfl
  obtain ⟨count, last, ends⟩ :=
    @exists_ends σ _ retrier (client.attempt web url (.ok ())) repeats 2 1 rfl (none, far)
  rw [← whole] at ends
  obtain ⟨content, beyond⟩ := last
  refine ⟨count, (content, beyond), ends, raises complains client url _, ?_, ?_⟩
  · rw [← attempt_ok_iff complains content, ← ends.outcome]
  · intro answer completes disk path spot writable
    have delivered : fetched.1.content = some (joined answer.pieces) := ends.content complains completes
    rw [delivered]
    exact read_deposit writable _

/-- A connection that was closed before anything came, as another library reports it. -/
def disconnected : Failure :=
  .raised ⟨"RemoteDisconnected", ["ConnectionResetError", "ConnectionError", "OSError", "Exception"]⟩
    "Remote end closed connection without response"

/-- A far side that breaks off once and does not answer once before it sends a shorter body. -/
def interrupted : Standin.Wire := .start
  [.answer 200 [] (.pieces [⟨#[80, 75]⟩, ⟨#[3]⟩] (some (Standin.raise "ReadError" "reset"))),
    .failure disconnected, .answer 200 [] (.whole ⟨#[80]⟩)]

/-- The file is the body of the third answer. -/
theorem fetch_ends_interrupted :
    let fetched := Client.usual.fetch Standin.web Standin.retrier "http://example.test/N52E004.hgt.zip"
      (.ok ()) interrupted
    Standin.web.Complains ∧ Standin.retrier.Repeats ∧ fetched.2.requests.length = 3 ∧
    ∃ count last answer, Ends Standin.retrier
        (Client.usual.attempt Standin.web "http://example.test/N52E004.hgt.zip" (.ok ())) 3 1
        (none, interrupted) count last (fetched.1.result, fetched.1.content, fetched.2) ∧
      Completes Standin.web Client.usual "http://example.test/N52E004.hgt.zip" last.2 answer ∧
      joined answer.pieces = ⟨#[80]⟩ := by
  intro fetched
  have complains := Standin.complains_web
  have repeats : Standin.retrier.Repeats := Standin.repeats_repeater _
  have content : fetched.1.content = some ⟨#[80]⟩ := by decide +kernel
  have requests : fetched.2.requests.length = 3 := by decide +kernel
  have fine : fetched.1.result.toOption = some () := by decide +kernel
  obtain ⟨count, last, ends, -, well, -⟩ := fetch_ends complains repeats Client.usual
    "http://example.test/N52E004.hgt.zip" interrupted
  obtain ⟨answer, completes⟩ := well.mp (eq_ok_of_toOption fine)
  have same := (ends.content complains completes).symm.trans content
  exact ⟨complains, repeats, requests, count, last, answer, ends, completes, Option.some.inj same⟩

end Elevation.Transfer
