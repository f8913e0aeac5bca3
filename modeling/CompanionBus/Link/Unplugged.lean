import CompanionBus.Link
/-
  A link with nothing at its far end: it cannot be opened, so nothing can be sent or received.
-/
namespace CompanionBus

/-- What the link leads to, and how an attempt to open it fails. -/
structure Unplugged where
  address : String
  refusal : LinkError
  deriving DecidableEq, Repr

namespace Unplugged

/-- The link that stays closed. -/
def link : Link Unplugged where
  connect s := (.error s.refusal, s)
  disconnect s := (.ok (), s)
  isConnected _ := false
  send _ s := (.error .notConnected, s)
  receive _ s := (.error .notConnected, s)
  discard s := (.error .notConnected, s)
  address := Unplugged.address
  now _ := 0
  quota _ := 0
  progress _ _ _ h := by simp [keepsWaiting] at h

end Unplugged

end CompanionBus
