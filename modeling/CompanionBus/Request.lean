import CompanionBus.Clock.Time
import CompanionBus.Flags
import CompanionBus.Packet
/-
  Requests: what can be asked of the device, and how the question is laid out.

  1. **Program** — `fault?` finds the limit that a request breaks, if any; `payload` lays a request
     out; `toPacket` does both, and `encode` makes the frame.

  2. **The layout** — a payload begins with the version of its service, except that asking for the
     time has no payload at all. Texts and data stand behind their length.

  3. **The crux** — the limits are such that the frame of a request that breaks none always fits,
     and that every length fits the number that carries it.
-/
namespace CompanionBus

/-- A request to the device. -/
inductive Request where
  /-- Opens a session on an address; `bodyLength` announces a body, 0 meaning none or unknown. -/
  | openUrl (method : Method) (flags : Flags OpenFlag) (url : String) (bodyLength : UInt32)
  /-- Asks for up to `maxBytes` of data from `offset` on. -/
  | read (handle : UInt16) (offset : UInt32) (maxBytes : UInt16)
  /-- Sends data that stands at `offset`; no data means that none follows. -/
  | write (handle : UInt16) (offset : UInt32) (data : List UInt8)
  | close (handle : UInt16)
  | info (handle : UInt16)
  | clockGet
  | clockSet (time : ClockTime)
  /-- Asks for the time in a layout, in the timezone of the device unless one is given. -/
  | clockFormat (format : TimeFormat) (timezone : Option String)
  | timezoneGet
  /-- Sets the timezone; `persist` also saves it. -/
  | timezoneSet (timezone : String) (persist : Bool)
  | clockSync
  deriving DecidableEq

namespace Request

/-- The command of a request. -/
def command : Request → Command
  | .openUrl .. => .openUrl
  | .read .. => .read
  | .write .. => .write
  | .close _ => .close
  | .info _ => .info
  | .clockGet => .clockGet
  | .clockSet _ => .clockSet
  | .clockFormat .. => .clockFormat
  | .timezoneGet => .timezoneGet
  | .timezoneSet _ false => .timezoneSet
  | .timezoneSet _ true => .timezoneSave
  | .clockSync => .clockSync

/-! ## Limits -/

/-- What is wrong with an address: it is empty or too long. -/
def urlFault? (url : String) : Option ProtocolError :=
  if url.utf8ByteSize = 0 then some (.invalidArgument .emptyUrl)
  else if maxUrl < url.utf8ByteSize then some (.urlTooLong url.utf8ByteSize maxUrl)
  else none

/-- What is wrong with a handle: it is the one that no session has. -/
def handleFault? (handle : UInt16) : Option ProtocolError :=
  if handle = noHandle then some (.invalidArgument .zeroHandle) else none

/-- What is wrong with a timezone: it is empty or too long. -/
def timezoneFault? (timezone : String) : Option ProtocolError :=
  if timezone.utf8ByteSize = 0 then some (.invalidArgument .emptyTimezone)
  else if maxTimezone < timezone.utf8ByteSize then
    some (.invalidArgument (.longTimezone timezone.utf8ByteSize))
  else none

/-- What is wrong with an amount of data: it is more than goes at once. -/
def chunkFault? (length : Nat) : Option ProtocolError :=
  if maxChunk < length then some (.payloadTooLarge length maxChunk) else none

/-- The first limit that a request breaks, if it breaks one. -/
def fault? : Request → Option ProtocolError
  | .openUrl _ _ url _ => urlFault? url
  | .read handle _ maxBytes =>
    (handleFault? handle).or
      (if maxBytes = 0 then some (.invalidArgument .readOfNothing)
        else chunkFault? maxBytes.toNat)
  | .write handle _ data => (handleFault? handle).or (chunkFault? data.length)
  | .close handle | .info handle => handleFault? handle
  | .clockFormat _ (some timezone) => timezoneFault? timezone
  | .timezoneSet timezone _ => timezoneFault? timezone
  | .clockFormat _ none | .clockGet | .clockSet _ | .timezoneGet | .clockSync => none

/-! ## Layout -/

/-- A number in two bytes. -/
def half (n : Nat) : List UInt8 := LittleEndian.encode 2 n

/-- A number in four bytes. -/
def word (n : Nat) : List UInt8 := LittleEndian.encode 4 n

/-- The payload of a request. No headers are sent with an address, and none are asked for. -/
def payload : Request → List UInt8
  | .openUrl method flags url bodyLength =>
    networkVersion :: method.code :: flags.bits :: half url.utf8ByteSize ++ Utf8.encode url
      ++ half 0 ++ word bodyLength.toNat ++ half 0
  | .read handle offset maxBytes =>
    networkVersion :: half handle.toNat ++ word offset.toNat ++ half maxBytes.toNat
  | .write handle offset data =>
    networkVersion :: half handle.toNat ++ word offset.toNat ++ half data.length ++ data
  | .close handle | .info handle => networkVersion :: half handle.toNat
  | .clockGet => []
  | .clockSet time => clockVersion :: LittleEndian.encode 8 time.seconds.toNat
  | .clockFormat format timezone =>
    let tz := timezone.getD ""
    clockVersion :: format.code :: UInt8.ofNat tz.utf8ByteSize :: Utf8.encode tz
  | .timezoneGet | .clockSync => [clockVersion]
  | .timezoneSet timezone _ =>
    clockVersion :: UInt8.ofNat timezone.utf8ByteSize :: Utf8.encode timezone

/-! ## The packet and the frame of a request -/

/-- The packet of a request, if it keeps to the limits. -/
def toPacket (r : Request) : Except ProtocolError Packet :=
  match r.fault? with
  | some e => .error e
  | none => .ok { command := r.command, payload := r.payload }

/-- The frame of a request, if it keeps to the limits. -/
def encode (r : Request) : Except ProtocolError (List UInt8) :=
  match r.toPacket with
  | .error e => .error e
  | .ok p => p.encode

end Request

end CompanionBus
