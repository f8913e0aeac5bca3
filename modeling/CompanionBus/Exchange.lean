import CompanionBus.Error.Client
import CompanionBus.Link
import CompanionBus.Request
import CompanionBus.Response
import CompanionBus.Slip.Accumulator
/-
  Exchanges: one question to the device and the wait for its answer.

  1. **Program** — `Exchange.transact` throws away what is left over from earlier, sends a frame,
     and collects what comes in until a whole frame is there or the time is up. `Exchange.run` does
     so for a request, whose limits are checked before the link is touched, and reads the answer.

  2. **Specification** — nothing is received after the deadline, and no attempt to receive lasts
     longer than the poll interval or the time left.

  3. **The crux** — `await` is total because every turn takes time or takes from the quota of the
     link, and an attempt to receive is never made with a wait of zero: the interval is at least one
     millisecond, by `poll_pos`, and the deadline still lies ahead.

  4. **Range** — times are whole milliseconds without a bound. This is faithful for settings of whole
     milliseconds whose deadline is an instant of the clock in use; and the timeout that an error
     reports has to be less than `2 ^ 64`, since it is reported in 64 bits.
-/
namespace CompanionBus

/-- How long an exchange may take in all, and how long each look at the link may last, in
    milliseconds. -/
structure Exchange where
  timeout : Nat
  pollInterval : Nat
  poll_pos : 0 < pollInterval
  deriving DecidableEq

namespace Exchange

/-! ## Settings -/

/-- An exchange with given times. A look at the link lasts one millisecond at least. -/
def make (timeout pollInterval : Nat) : Exchange :=
  ⟨timeout, max pollInterval 1, by omega⟩

/-- The times that are used unless others are set. -/
def standard : Exchange := make defaultTimeout defaultPollInterval

/-- The same with another time in all. -/
def withTimeout (x : Exchange) (timeout : Nat) : Exchange := make timeout x.pollInterval

/-- The same with another time for each look at the link. -/
def withPollInterval (x : Exchange) (pollInterval : Nat) : Exchange := make x.timeout pollInterval

/-! ## The exchange of two frames -/

/-- Bytes that cannot be made into a frame count as a failure of the link. -/
def undecodable (e : ProtocolError) : ClientError := .link (.io (.undecodable e))

/-- The frame in a wrapped one. -/
def unwrap (delimited : List UInt8) : Except ClientError (List UInt8) :=
  match Slip.decode delimited with
  | .error e => .error (undecodable e)
  | .ok [] => .error (.link (.io .emptyFrame))
  | .ok frame => .ok frame

/-- How long the next look at the link lasts, `remaining` milliseconds before the deadline. -/
def wait (x : Exchange) (remaining : Nat) : Nat := min x.pollInterval remaining

/-- Receives until a frame is complete, the link fails, or the deadline has come. -/
def await {σ : Type} (x : Exchange) (l : Link σ) (deadline : Nat) (a : Accumulator) (s : σ) :
    Except ClientError (List UInt8) × σ :=
  if hnow : deadline ≤ l.now s then (.error (.timeout x.timeout), s)
  else
    have hwait : 0 < x.wait (deadline - l.now s) := by
      have := x.poll_pos
      simp only [wait]
      omega
    match hr : l.receive (x.wait (deadline - l.now s)) s with
    | (.error .readTimeout, s') =>
      have hp := l.progress _ s hwait (by rw [hr]; rfl)
      await x l deadline a s'
    | (.error e, s') => (.error (.link e), s')
    | (.ok chunk, s') =>
      have hp := l.progress _ s hwait (by rw [hr]; rfl)
      match a.push chunk with
      | (.error e, _) => (.error (undecodable e), s')
      | (.ok (some delimited), _) => (unwrap delimited, s')
      | (.ok none, a') => await x l deadline a' s'
termination_by (deadline - l.now s, l.quota s)
decreasing_by
  all_goals
    rw [hr] at hp
    dsimp only at hp
    rcases hp with hp | ⟨hp, hq⟩
    · left; omega
    · rw [hp]; right; exact hq

/-- Sends a frame and returns the frame that comes back. -/
def transact {σ : Type} (x : Exchange) (l : Link σ) (frame : List UInt8) (s : σ) :
    Except ClientError (List UInt8) × σ :=
  match l.discard s with
  | (.error e, s) => (.error (.link e), s)
  | (.ok (), s) =>
    match l.send (Slip.encode frame) s with
    | (.error e, s) => (.error (.link e), s)
    | (.ok (), s) => x.await l (l.now s + x.timeout) (Accumulator.ofMaxFrame maxFrame) s

/-! ## The exchange of a request and its answer -/

/-- The answer to a command in the frame that came back. -/
def readAnswer (command : Command) :
    Except ClientError (List UInt8) → Except ClientError Response
  | .error e => .error e
  | .ok frame =>
    match Response.decode command frame with
    | .error e => .error (.protocol e)
    | .ok response => .ok response

/-- Sends a request and returns the answer. -/
def run {σ : Type} (x : Exchange) (l : Link σ) (request : Request) (s : σ) :
    Except ClientError Response × σ :=
  match request.encode with
  | .error e => (.error (.protocol e), s)
  | .ok frame =>
    match x.transact l frame s with
    | (raw, s) => (readAnswer request.command raw, s)

end Exchange

end CompanionBus
