import CompanionBus.Error.Link
/-
  Links: what carries the bytes between this side of the bus and the device.

  A link is described by what its operations do to its state. It moves bytes without regard to
  frames, so one `receive` may bring part of a frame, or several. Time passes only while it waits.

  The one law that every link has to obey is `progress`: whoever keeps receiving, with a wait that
  is not zero, sees the clock go on or uses up something that is finite. It is what lets an exchange
  be written as a total function.
-/
namespace CompanionBus

/-- Whether someone who waits for a frame keeps waiting after an attempt to receive: bytes have come
    in, or none have so far. -/
def keepsWaiting : Except LinkError (List UInt8) → Bool
  | .ok _ => true
  | .error .readTimeout => true
  | .error _ => false

/-- A link with states `σ`. -/
structure Link (σ : Type) where
  /-- Opens the link. -/
  connect : σ → Except LinkError Unit × σ
  /-- Closes the link. -/
  disconnect : σ → Except LinkError Unit × σ
  /-- Whether the link is open. -/
  isConnected : σ → Bool
  /-- Sends bytes. -/
  send : List UInt8 → σ → Except LinkError Unit × σ
  /-- Takes whatever bytes are there, or waits for some, but not longer than so many milliseconds;
      a `readTimeout` says that none came. -/
  receive : Nat → σ → Except LinkError (List UInt8) × σ
  /-- Throws away the bytes that are there. -/
  discard : σ → Except LinkError Unit × σ
  /-- What the link leads to, for a reader. -/
  address : σ → String
  /-- The time, in milliseconds. -/
  now : σ → Nat
  /-- A bound on how often `receive` can come back before the clock goes on. -/
  quota : σ → Nat
  /-- Waiting takes time, or takes from the quota. -/
  progress : ∀ wait s, 0 < wait → keepsWaiting (receive wait s).1 = true →
    now s < now (receive wait s).2 ∨
      (now (receive wait s).2 = now s ∧ quota (receive wait s).2 < quota s)

end CompanionBus
