import CompanionBus.Exchange
import CompanionBus.Operation
/-
  A device: a link, the table of the sessions open on it, and the operations on both.

  1. **Program** — `init` opens the link and `shutdown` closes it. Every other operation is an
     `Operation` on the table, carried out by `perform`: the local checks come first, then the check
     that the device is ready, then one exchange, and last the answer is settled.

  2. **Specification** — an operation that its checks refuse does not touch the link; one that they
     let through is one exchange.

  3. **The crux** — `perform` is the only way to the link for all of them, so what it does once it
     does for each.
-/
namespace CompanionBus

/-- A device on a link `l`. -/
structure Device {σ : Type} (l : Link σ) where
  /-- The state of the link. -/
  line : σ
  sessions : SessionTable := SessionTable.ofCapacity maxSessions
  exchange : Exchange := Exchange.standard
  /-- The link has been made ready. -/
  initialized : Bool := false

namespace Device

variable {σ : Type} {l : Link σ}

/-! ## Settings -/

/-- The same device with another time for each exchange. -/
def withTimeout (d : Device l) (timeout : Nat) : Device l :=
  { d with exchange := d.exchange.withTimeout timeout }

/-- The same device with another time for each look at the link. -/
def withPollInterval (d : Device l) (pollInterval : Nat) : Device l :=
  { d with exchange := d.exchange.withPollInterval pollInterval }

/-- The same device with an empty table of another size. -/
def withSessions (d : Device l) (capacity : Nat) : Device l :=
  { d with sessions := SessionTable.ofCapacity capacity }

/-- What is known here about the session with a handle. -/
def session? (d : Device l) (handle : UInt16) : Option Session := d.sessions.get? handle

/-! ## Making ready and shutting down -/

/-- Whether the device can be talked to. -/
def isReady (d : Device l) : Bool := d.initialized && l.isConnected d.line

/-- Opens the link, unless it is open. -/
def connect (d : Device l) : Except LinkError Unit × Device l :=
  if l.isConnected d.line then (.ok (), d)
  else ((l.connect d.line).1, { d with line := (l.connect d.line).2 })

/-- Opens the link, unless it is open, and throws away what is left over on it. -/
def init (d : Device l) : Except ClientError Unit × Device l :=
  match d.connect with
  | (.error e, d) => (.error (.link e), d)
  | (.ok (), d) =>
    match l.discard d.line with
    | (.error e, line) => (.error (.link e), { d with line })
    | (.ok (), line) => (.ok (), { d with line, initialized := true })

/-- Forgets all sessions, without closing them on the device, and closes the link. -/
def shutdown (d : Device l) : Except ClientError Unit × Device l :=
  match l.disconnect d.line with
  | (result, line) =>
    (result.mapError .link, { d with line, sessions := d.sessions.clear, initialized := false })

/-! ## Carrying out operations -/

/-- Sends a request and waits for the answer, if the device can be talked to. -/
def call (d : Device l) (request : Request) : Except ClientError Response × Device l :=
  if d.isReady then
    match d.exchange.run l request d.line with
    | (answer, line) => (answer, { d with line })
  else (.error .notInitialized, d)

/-- Carries out an operation. -/
def perform {α : Type} (d : Device l) (op : Operation α) : Except ClientError α × Device l :=
  match op d.sessions with
  | .error e => (.error e, d)
  | .ok p =>
    match d.call p.request with
    | (answer, d) => ((p.settle answer).1, { d with sessions := (p.settle answer).2 })

/-! ## Sessions -/

/-- Opens a session on an address and announces a body of `bodyLength` bytes. -/
def openWithBody (d : Device l) (method : Method) (url : String) (flags : Flags OpenFlag)
    (bodyLength : UInt32) : Except ClientError UInt16 × Device l :=
  d.perform (Operation.openUrl method url flags bodyLength)

/-- Opens a session on an address. -/
def openUrl (d : Device l) (method : Method) (url : String) (flags : Flags OpenFlag) :
    Except ClientError UInt16 × Device l :=
  d.openWithBody method url flags 0

/-- Opens a raw byte stream to a port of a host. -/
def openTcp (d : Device l) (host : String) (port : UInt16) :
    Except ClientError UInt16 × Device l :=
  d.openUrl .stream s!"tcp://{host}:{port.toNat}" Flags.none

/-- Sends data and gives how much of it was taken. -/
def write (d : Device l) (handle : UInt16) (offset : UInt32) (data : List UInt8) :
    Except ClientError UInt16 × Device l :=
  d.perform (Operation.write handle offset data)

/-- Says that no more data follows; gives whether the device can be told so. -/
def halfClose (d : Device l) (handle : UInt16) : Except ClientError Bool × Device l :=
  d.perform (Operation.halfClose handle)

/-- Reads into a buffer: the outcome, the buffer afterwards, and the device. -/
def read (d : Device l) (handle : UInt16) (offset : UInt32) (buffer : List UInt8) :
    Except ClientError ReadOutcome × List UInt8 × Device l :=
  match d.perform (Operation.read handle offset buffer) with
  | (.error e, d) => (.error e, buffer, d)
  | (.ok r, d) => (r.outcome, r.buffer, d)

/-- Asks for the state of a session. -/
def info (d : Device l) (handle : UInt16) : Except ClientError SessionInfo × Device l :=
  d.perform (Operation.info handle)

/-- Closes a session. -/
def close (d : Device l) (handle : UInt16) : Except ClientError Unit × Device l :=
  d.perform (Operation.close handle)

/-! ## The clock -/

/-- Asks for the time. -/
def clockGet (d : Device l) : Except ClientError ClockTime × Device l :=
  d.perform Operation.clockGet

/-- Sets the time, and gives the time that the device has then. -/
def clockSet (d : Device l) (time : ClockTime) : Except ClientError ClockTime × Device l :=
  d.perform (Operation.clockSet time)

/-- Has the device take the time from the network, and gives the time that it has then. -/
def clockSync (d : Device l) : Except ClientError ClockTime × Device l :=
  d.perform Operation.clockSync

/-- Asks for the time in a layout, in the timezone of the device. -/
def clockFormat (d : Device l) (format : TimeFormat) :
    Except ClientError FormattedTime × Device l :=
  d.perform (Operation.clockFormat format none)

/-- Asks for the time in a layout, in a given timezone. -/
def clockFormatIn (d : Device l) (format : TimeFormat) (timezone : String) :
    Except ClientError FormattedTime × Device l :=
  d.perform (Operation.clockFormat format (some timezone))

/-- Asks for the timezone. -/
def timezoneGet (d : Device l) : Except ClientError String × Device l :=
  d.perform Operation.timezoneGet

/-- Sets the timezone until the device restarts. -/
def timezoneSet (d : Device l) (timezone : String) : Except ClientError Unit × Device l :=
  d.perform (Operation.timezoneSet timezone false)

/-- Sets the timezone and saves it. -/
def timezoneSave (d : Device l) (timezone : String) : Except ClientError Unit × Device l :=
  d.perform (Operation.timezoneSet timezone true)

end Device

end CompanionBus
