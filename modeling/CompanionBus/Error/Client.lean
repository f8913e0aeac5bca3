import CompanionBus.Error.Link
/-
  Errors of the operations on a device, whichever layer they come from.
-/
namespace CompanionBus

/-- An error of an operation. -/
inductive ClientError where
  | protocol (error : ProtocolError)
  | link (error : LinkError)
  | value (error : ValueError)
  | notInitialized
  /-- No complete answer came within so many milliseconds, which are less than `2 ^ 64`. -/
  | timeout (millis : Nat)
  deriving DecidableEq, Repr

namespace ClientError

/-- The wording of an error. -/
def message : ClientError → String
  | .protocol error => "Core protocol error: " ++ error.message
  | .link error => "Transport error: " ++ error.message
  | .value error => "Type error: " ++ error.message
  | .notInitialized => "Device not initialized"
  | .timeout millis => s!"No complete response within {millis} ms"

/-- The class of failure that an error belongs to. -/
def kind : ClientError → ErrorKind
  | .protocol error => error.kind
  | .link _ | .notInitialized | .timeout _ => .transport
  | .value (.validation _) => .argument
  | .value (.parse _) => .protocol

/-- The status that an error reports, if the device gave one. -/
def status? : ClientError → Option Status
  | .protocol (.status s) => some s
  | _ => none

/-- Whether the device says that the thing asked for is not there yet. -/
def isNotReady : ClientError → Bool
  | .protocol error => error.isNotReady
  | _ => false

/-- Whether the device does not support the operation on this kind of session. -/
def isUnsupported (e : ClientError) : Bool := e.status? == some .unsupported

/-- Whether another try may succeed. -/
def isRecoverable : ClientError → Bool
  | .protocol error => error.isRecoverable
  | .link error => error.isTimeout
  | .timeout _ => true
  | .value _ | .notInitialized => false

end ClientError

end CompanionBus
