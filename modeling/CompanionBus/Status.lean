import CompanionBus.ErrorKind
import CompanionBus.Text.Hex
/-
  The status byte of an answer.

  The device puts it into the first field of every answer; an answer without fields means success.
  A code that is not known is kept as it is, so `code_ofCode` holds of every byte.
-/
namespace CompanionBus

/-- What the device says about a request. -/
inductive Status where
  | ok
  | notFound
  | invalid
  | busy
  | notReady
  | io
  | timeout
  | internal
  | unsupported
  /-- A code without a meaning here. -/
  | unknown (code : UInt8)
  deriving DecidableEq, Repr

namespace Status

/-! ## Codes -/

/-- The status that a byte stands for. -/
def ofCode (code : UInt8) : Status :=
  match code with
  | 0 => .ok
  | 1 => .notFound
  | 2 => .invalid
  | 3 => .busy
  | 4 => .notReady
  | 5 => .io
  | 6 => .timeout
  | 7 => .internal
  | 8 => .unsupported
  | other => .unknown other

/-- The byte that stands for a status. -/
def code : Status → UInt8
  | .ok => 0
  | .notFound => 1
  | .invalid => 2
  | .busy => 3
  | .notReady => 4
  | .io => 5
  | .timeout => 6
  | .internal => 7
  | .unsupported => 8
  | .unknown code => code

@[simp] theorem code_ofCode (b : UInt8) : (ofCode b).code = b := by
  unfold ofCode
  split <;> rfl

/-! ## Meaning and wording -/

/-- The class of failure that a status reports. -/
def kind : Status → ErrorKind
  | .notReady => .notReady
  | .busy | .io | .timeout => .transport
  | .notFound => .resource
  | .invalid => .argument
  | .ok | .internal | .unsupported | .unknown _ => .protocol

/-- The meaning of a status in words. -/
def description : Status → String
  | .ok => "OK"
  | .notFound => "Not found"
  | .invalid => "Invalid parameter"
  | .busy => "Device busy"
  | .notReady => "Not ready"
  | .io => "I/O error"
  | .timeout => "Timeout"
  | .internal => "Internal error"
  | .unsupported => "Not supported"
  | .unknown _ => "Unknown error"

/-- The short name of a status. -/
def title : Status → String
  | .ok => "Ok"
  | .notFound => "NotFound"
  | .invalid => "Invalid"
  | .busy => "Busy"
  | .notReady => "NotReady"
  | .io => "Io"
  | .timeout => "Timeout"
  | .internal => "Internal"
  | .unsupported => "Unsupported"
  | .unknown code => s!"Unknown({code.toNat})"

/-- The meaning in words, followed by the code. -/
def render (s : Status) : String := s.description ++ "(" ++ Hex.byte s.code ++ ")"

end Status

end CompanionBus
