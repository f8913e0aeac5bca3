import CompanionBus.Error.Protocol
/-
  Errors of the link that carries the bytes.
-/
namespace CompanionBus

/-- What went wrong while bytes were moved. -/
inductive IoFault where
  /-- The bytes that arrived cannot be made into a frame. -/
  | undecodable (error : ProtocolError)
  /-- The frame that arrived holds nothing. -/
  | emptyFrame
  /-- Any other reason, in the words of the system. -/
  | other (text : String)
  deriving DecidableEq, Repr

/-- An error of a link. -/
inductive LinkError where
  | notConnected
  | alreadyConnected
  | connectionTimeout
  | readTimeout
  | connectionClosed
  | io (fault : IoFault)
  | serial (text : String)
  | invalidAddress (text : String)
  | invalidConfig (text : String)
  deriving DecidableEq, Repr

/-- The wording of a failure to move bytes. -/
def IoFault.message : IoFault → String
  | .undecodable error => error.message
  | .emptyFrame => "empty frame"
  | .other text => text

namespace LinkError

/-- The wording of an error. -/
def message : LinkError → String
  | .notConnected => "Not connected"
  | .alreadyConnected => "Already connected"
  | .connectionTimeout => "Connection timeout"
  | .readTimeout => "Read timeout"
  | .connectionClosed => "Connection closed by remote"
  | .io fault => "I/O error: " ++ fault.message
  | .serial text => "Serial port error: " ++ text
  | .invalidAddress text => "Invalid address: " ++ text
  | .invalidConfig text => "Invalid configuration: " ++ text

/-- Whether nothing happened in the time allowed. -/
def isTimeout : LinkError → Bool
  | .readTimeout | .connectionTimeout => true
  | _ => false

end LinkError

end CompanionBus
