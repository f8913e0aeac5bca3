/-
  The broad classes of failure, by which a caller decides how to react.
-/
namespace CompanionBus

/-- A class of failure. -/
inductive ErrorKind where
  /-- A value that the caller gave breaks a stated limit. -/
  | argument
  /-- A frame is malformed or does not fit the question. -/
  | protocol
  /-- The link failed or timed out, or the device is busy. -/
  | transport
  /-- There is no free session slot, or no such session. -/
  | resource
  /-- The device says "not yet": ask again. -/
  | notReady
  deriving DecidableEq, Repr

end CompanionBus
