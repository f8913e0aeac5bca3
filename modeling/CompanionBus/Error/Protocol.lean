import CompanionBus.Command
import CompanionBus.Error.Value
import CompanionBus.Limits
import CompanionBus.Status
import CompanionBus.Text.Utf8
/-
  Errors of the bus protocol: bad arguments, bad frames, and what the device refuses.

  An error holds its cause, not its words; `ProtocolError.message` puts all of them into words.
  `ProtocolError.kind` sorts them into classes, and only a status of the device can be worth
  another try (`isRecoverable`).
-/
namespace CompanionBus

/-! ## Causes -/

/-- What is wrong with an argument. -/
inductive ArgumentFault where
  | emptyUrl
  | readOfNothing
  | zeroHandle
  | emptyTimezone
  | longTimezone (length : Nat)
  | emptyBuffer
  /-- A write has to go on where the one before ended. -/
  | writeOffset (offset cursor : UInt32) (handle : UInt16)
  /-- Any other reason, in the words of whoever gives it. -/
  | other (text : String)
  deriving DecidableEq, Repr

/-- What is wrong with a frame, or with what it answers. -/
inductive FrameFault where
  | reservedBits (descriptor : UInt8)
  | statusRange (value : UInt32)
  | payloadShort (expected length : Nat)
  | readOverrun (declared available : Nat)
  | formattedOverrun (declared : Nat)
  | timezoneOverrun (declared : Nat)
  | timezoneText (fault : Utf8.Fault)
  | zeroHandleIssued
  | openRefused (url : String)
  | writeExcess (written length : Nat)
  | handleEcho (answered expected : UInt16)
  | offsetEcho (answered expected : UInt32)
  | formatEcho (asked answered : TimeFormat)
  /-- The answer has not the shape that belongs to the request. -/
  | unrelated (shape : String)
  /-- Any other reason, in the words of whoever gives it. -/
  | other (text : String)
  deriving DecidableEq, Repr

/-- An error of the bus protocol. -/
inductive ProtocolError where
  | invalidArgument (fault : ArgumentFault)
  | urlTooLong (length max : Nat)
  | payloadTooLarge (size max : Nat)
  | packetTooShort (expected length : Nat)
  | lengthMismatch (declared length : Nat)
  | checksumMismatch (expected received : UInt8)
  | invalidFrame (fault : FrameFault)
  | unsupportedVersion (version : UInt8)
  | unknownService (code : UInt8)
  | unknownCommand (service code : UInt8)
  | unexpectedResponse (expected answered : Command)
  | danglingEscape
  | invalidEscape (byte : UInt8)
  | frameTooLarge (size max : Nat)
  | status (status : Status)
  | noHandles
  | handleNotFound (handle : UInt16)
  | value (error : ValueError)
  deriving DecidableEq, Repr

/-! ## Wording -/

/-- The wording of a bad argument. -/
def ArgumentFault.message : ArgumentFault → String
  | .emptyUrl => "empty URL"
  | .readOfNothing => "read of zero bytes"
  | .zeroHandle => "invalid handle 0"
  | .emptyTimezone => "empty timezone"
  | .longTimezone length => s!"timezone too long: {length} bytes (max: {maxTimezone} bytes)"
  | .emptyBuffer => "empty read buffer"
  | .writeOffset offset cursor handle =>
    s!"write offset {offset.toNat} does not match cursor {cursor.toNat} on handle {handle.toNat}"
  | .other text => text

/-- The wording of a bad frame. -/
def FrameFault.message : FrameFault → String
  | .reservedBits descriptor => "reserved descriptor bits set: " ++ Hex.byte descriptor
  | .statusRange value => "status field out of range: " ++ Hex.number value.toNat
  | .payloadShort expected length =>
    s!"payload too short: expected at least {expected} bytes, got {length}"
  | .readOverrun declared available =>
    s!"read data length {declared} exceeds payload ({available} bytes available)"
  | .formattedOverrun declared => s!"formatted time length {declared} exceeds payload"
  | .timezoneOverrun declared => s!"timezone length {declared} exceeds payload"
  | .timezoneText fault => "timezone is not UTF-8: " ++ fault.message
  | .zeroHandleIssued => "device issued invalid handle 0"
  | .openRefused url => "open of " ++ url ++ " not accepted"
  | .writeExcess written length => s!"device accepted {written} bytes of a {length}-byte write"
  | .handleEcho answered expected =>
    s!"response for handle {answered.toNat}, expected {expected.toNat}"
  | .offsetEcho answered expected =>
    s!"response for offset {answered.toNat}, expected {expected.toNat}"
  | .formatEcho asked answered =>
    s!"asked for {asked.title} time, device sent {answered.title}"
  | .unrelated shape => "unexpected response: " ++ shape
  | .other text => text

/-- The wording of an error. -/
def ProtocolError.message : ProtocolError → String
  | .invalidArgument fault => "Invalid argument: " ++ fault.message
  | .urlTooLong length max => s!"URL too long: {length} bytes (max: {max} bytes)"
  | .payloadTooLarge size max => s!"Payload too large: {size} bytes (max: {max} bytes)"
  | .packetTooShort expected length =>
    s!"Packet too short: expected at least {expected} bytes, got {length} bytes"
  | .lengthMismatch declared length =>
    s!"Length mismatch: header says {declared} bytes, frame has {length} bytes"
  | .checksumMismatch expected received =>
    "Checksum mismatch: expected " ++ Hex.byte expected ++ ", received " ++ Hex.byte received
  | .invalidFrame fault => "Invalid frame: " ++ fault.message
  | .unsupportedVersion version => s!"Unsupported payload version: {version.toNat}"
  | .unknownService code => "Unknown device id: " ++ Hex.byte code
  | .unknownCommand service code =>
    "Unknown command " ++ Hex.byte code ++ " for device " ++ Hex.byte service
  | .unexpectedResponse expected answered =>
    "Unexpected response: sent " ++ expected.render ++ ", got " ++ answered.render
  | .danglingEscape => "SLIP frame ends inside an escape sequence"
  | .invalidEscape byte => "Invalid SLIP escape target: " ++ Hex.byte byte
  | .frameTooLarge size max => s!"Frame too large: {size} bytes (max: {max} bytes)"
  | .status s => "Device returned status: " ++ s.render
  | .noHandles => "No free session handles"
  | .handleNotFound handle => s!"Handle not found: {handle.toNat}"
  | .value error => "Type error: " ++ error.message

/-! ## Classes -/

namespace ProtocolError

/-- The class of failure that an error belongs to. -/
def kind : ProtocolError → ErrorKind
  | .invalidArgument _ | .urlTooLong .. | .payloadTooLarge .. => .argument
  | .packetTooShort .. | .lengthMismatch .. | .checksumMismatch .. | .invalidFrame _
  | .unsupportedVersion _ | .unknownService _ | .unknownCommand .. | .unexpectedResponse ..
  | .value _ => .protocol
  | .danglingEscape | .invalidEscape _ | .frameTooLarge .. => .transport
  | .noHandles | .handleNotFound _ => .resource
  | .status s => s.kind

/-- Whether the device says that the thing asked for is not there yet. -/
def isNotReady : ProtocolError → Bool
  | .status .notReady => true
  | _ => false

/-- Whether another try may succeed. -/
def isRecoverable : ProtocolError → Bool
  | .status .notReady | .status .busy | .status .timeout => true
  | _ => false

end ProtocolError

/-! ## Ids off the wire -/

/-- The service that answers to an id. -/
def Service.ofCode (code : UInt8) : Except ProtocolError Service :=
  match Service.ofCode? code with
  | some s => .ok s
  | none => .error (.unknownService code)

/-- The command that a pair of bytes names: first the service is looked up, then its command. -/
def Command.ofWire (service code : UInt8) : Except ProtocolError Command :=
  match Service.ofCode service with
  | .error e => .error e
  | .ok s =>
    match Command.ofCode? s code with
    | some c => .ok c
    | none => .error (.unknownCommand service code)

/-- The pairs of bytes that name a command are those that its service and its code are. -/
theorem Command.ofWire_eq_ok_iff {service code : UInt8} {c : Command} :
    Command.ofWire service code = .ok c ↔ service = c.service.code ∧ code = c.code := by
  constructor
  · intro h
    unfold Command.ofWire Service.ofCode at h
    cases hs : Service.ofCode? service with
    | none => rw [hs] at h; cases h
    | some s =>
      rw [hs] at h
      cases hc : Command.ofCode? s code with
      | none => simp only [hc] at h; cases h
      | some c' =>
        simp only [hc] at h
        obtain rfl := Except.ok.inj h
        obtain ⟨rfl, hcode⟩ := Command.ofCode?_eq_some_iff.mp hc
        exact ⟨Service.ofCode?_eq_some_iff.mp hs, hcode⟩
  · rintro ⟨rfl, rfl⟩
    cases c <;> rfl

end CompanionBus
