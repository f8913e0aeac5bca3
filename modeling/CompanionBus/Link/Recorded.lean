import CompanionBus.Link
/-
  A link that writes down what it is asked to do.

  Whatever the link, `Link.recorded` behaves in the same way and keeps a list of the calls, oldest
  first, whether they succeed or not. So what an operation did on the link can be read off the list.
-/
namespace CompanionBus

/-- A call to a link. Looking at its state is not one. -/
inductive LinkCall where
  | connect
  | disconnect
  | send (bytes : List UInt8)
  | receive (wait : Nat)
  | discard
  deriving DecidableEq, Repr

/-- The state of a link, and the calls made so far. -/
structure Recorded (σ : Type) where
  state : σ
  calls : List LinkCall := []

namespace Recorded

variable {σ : Type}

/-- Makes a call and writes it down. -/
def note {α : Type} (call : LinkCall) (act : σ → Except LinkError α × σ) (s : Recorded σ) :
    Except LinkError α × Recorded σ :=
  ((act s.state).1, { state := (act s.state).2, calls := s.calls ++ [call] })

end Recorded

/-- The same link, with a record of the calls. -/
def Link.recorded {σ : Type} (l : Link σ) : Link (Recorded σ) where
  connect := Recorded.note .connect l.connect
  disconnect := Recorded.note .disconnect l.disconnect
  isConnected s := l.isConnected s.state
  send bytes := Recorded.note (.send bytes) (l.send bytes)
  receive wait := Recorded.note (.receive wait) (l.receive wait)
  discard := Recorded.note .discard l.discard
  address s := l.address s.state
  now s := l.now s.state
  quota s := l.quota s.state
  progress wait s := l.progress wait s.state

end CompanionBus
