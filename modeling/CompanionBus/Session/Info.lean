import CompanionBus.Flags
import CompanionBus.Text.Hex
/-
  What the device reports about a session, and about one read from it.
-/
namespace CompanionBus

/-! ## About a session -/

/-- The state of a session at the far end. What the device does not know is absent. -/
structure SessionInfo where
  httpStatus : Option UInt16
  contentLength : Option UInt64
  flags : Flags InfoFlag
  deriving DecidableEq, Repr

namespace SessionInfo

/-- Whether a stream is connected. -/
def isConnected (i : SessionInfo) : Bool := i.flags.has .connected

/-- Whether the far end has closed its side of a stream. -/
def peerClosed (i : SessionInfo) : Bool := i.flags.has .peerClosed

/-- A report in one line, with a dash for what is absent. -/
def render (i : SessionInfo) : String :=
  let status := match i.httpStatus with
    | some s => toString s.toNat
    | none => "-"
  let length := match i.contentLength with
    | some n => toString n.toNat
    | none => "-"
  "Session[status: " ++ status ++ ", length: " ++ length ++ ", flags: " ++ Hex.byte i.flags.bits
    ++ "]"

end SessionInfo

/-! ## About a read -/

/-- What a read came to: how many bytes reached the caller, and how many the device sent. -/
structure ReadOutcome where
  bytesRead : Nat
  declaredLength : Nat
  flags : Flags ReadFlag
  deriving DecidableEq, Repr

namespace ReadOutcome

/-- Whether no more data follows. -/
def isEof (o : ReadOutcome) : Bool := o.flags.has .eof

/-- Whether there was more data than reached the caller: either the caller's buffer was too small,
    or the device had more than was asked for. -/
def isTruncated (o : ReadOutcome) : Bool :=
  decide (o.bytesRead < o.declaredLength) || o.flags.has .truncated

end ReadOutcome

end CompanionBus
