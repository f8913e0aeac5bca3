/-
  The numbers that the bus protocol fixes, and the defaults of this library.

  Sizes are in bytes, times in milliseconds.
-/
namespace CompanionBus

/-- The version of this library. -/
def libraryVersion : String := "0.1.0"

/-- The first byte of every payload of the network service. -/
def networkVersion : UInt8 := 0x01

/-- The first byte of every payload of the clock service. -/
def clockVersion : UInt8 := 0x01

/-- The largest frame that is sent: header, fields and payload. -/
def maxFrame : Nat := 1024

/-- The longest address that a session can be opened on. -/
def maxUrl : Nat := 256

/-- The most data that one read or one write moves. -/
def maxChunk : Nat := 512

/-- The longest timezone text. -/
def maxTimezone : Nat := 64

/-- How many sessions the device keeps at a time. -/
def maxSessions : Nat := 4

/-- The handle that the device never issues. -/
def noHandle : UInt16 := 0

/-- How long an exchange waits for its answer. -/
def defaultTimeout : Nat := 5000

/-- How long one look at the link lasts while an answer is awaited. -/
def defaultPollInterval : Nat := 100

end CompanionBus
