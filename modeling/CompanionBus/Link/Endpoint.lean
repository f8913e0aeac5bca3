import CompanionBus.Link.Unplugged
import CompanionBus.Text.Blank
import CompanionBus.Text.Decimal
import CompanionBus.Text.Utf8
/-
  The two places where a device can be: on a serial port, or behind a bridge on the network.

  1. **Program** — `SerialPort.ofEnvironment` takes path and speed from two settings of the
     environment. A setting that is absent, or that is not text, leaves the default; so does a speed
     that is not a number from 1 on that fits 32 bits.

  2. **The written form** — a port reads `path@speed`, a bridge `host:port`.
-/
namespace CompanionBus

/-! ## Serial ports -/

/-- A serial port and its speed. -/
structure SerialPort where
  path : String
  baud : UInt32
  deriving DecidableEq, Repr

namespace SerialPort

/-- The port that is used unless another is set. -/
def defaultPath : String := "/dev/ttyUSB0"

/-- The speed that is used unless another is set. -/
def defaultBaud : UInt32 := 115200

/-- A speed in text: a decimal number, with blanks around it, that is not zero. -/
def readBaud? (raw : String) : Option UInt32 :=
  match Decimal.read? (Blank.trim raw.toList) with
  | some n => if 0 < n ∧ n < UInt32.size then some (UInt32.ofNat n) else none
  | none => none

/-- The text of a setting; bytes that are not text are no setting. -/
def setting? (raw : Option (List UInt8)) : Option String := raw.bind Utf8.text?

/-- The port that the environment sets, given the bytes of its two settings. -/
def ofEnvironment (path baud : Option (List UInt8)) : SerialPort where
  path := (setting? path).getD defaultPath
  baud := ((setting? baud).bind readBaud?).getD defaultBaud

/-- The port with another speed. -/
def withBaud (p : SerialPort) (baud : UInt32) : SerialPort := { p with baud }

/-- Path and speed. -/
def address (p : SerialPort) : String := s!"{p.path}@{p.baud.toNat}"

/-- The state of a link to this port while nothing is plugged in, and opening it fails so. -/
def unplugged (p : SerialPort) (refusal : LinkError) : Unplugged where
  address := p.address
  refusal

end SerialPort

/-! ## Bridges -/

/-- A bridge that passes the byte stream of a serial line on over the network. -/
structure Bridge where
  host : String
  port : UInt16
  deriving DecidableEq, Repr

namespace Bridge

/-- Host and port. -/
def address (b : Bridge) : String := s!"{b.host}:{b.port.toNat}"

/-- The state of a link to this bridge while nothing listens there, and opening it fails so. -/
def unplugged (b : Bridge) (refusal : LinkError) : Unplugged where
  address := b.address
  refusal

end Bridge

end CompanionBus
