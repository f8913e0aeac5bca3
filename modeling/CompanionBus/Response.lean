import CompanionBus.Clock.Formatted
import CompanionBus.Clock.Time
import CompanionBus.Packet
import CompanionBus.Session.Info
/-
  Responses: what the device can answer, and how the answer is laid out.

  1. **Program** — `Response.parse` reads a packet as the answer to a command: it must be of that
     command, its status must be success, and then its payload must have the layout that goes with
     the command. `Response.decode` starts from the frame.

  2. **The layout** — a payload begins with version, flags and two spare bytes. Closing a session
     and setting the timezone have no payload that matters. Lengths inside a payload must not reach
     past its end; what lies behind the data they announce is ignored.

  3. **The crux** — every number is read at a position that the check of the length in front of it
     has put in bounds; `checked` hands the proof on to the readers.
-/
namespace CompanionBus

/-! ## The answers -/

/-- A session was opened, if the flags say so. -/
structure OpenReply where
  handle : UInt16
  flags : Flags OpenedFlag
  deriving DecidableEq, Repr

/-- Data from a place in a session. -/
structure ReadReply where
  handle : UInt16
  offset : UInt32
  flags : Flags ReadFlag
  data : List UInt8
  deriving DecidableEq, Repr

/-- How much of the data sent was taken. -/
structure WriteReply where
  handle : UInt16
  offset : UInt32
  written : UInt16
  deriving DecidableEq, Repr

/-- The state of a session. -/
structure InfoReply where
  handle : UInt16
  info : SessionInfo
  deriving DecidableEq, Repr

/-- An answer of the device. -/
inductive Response where
  | opened (reply : OpenReply)
  | data (reply : ReadReply)
  | written (reply : WriteReply)
  | closed
  | info (reply : InfoReply)
  | time (time : ClockTime)
  | formatted (time : FormattedTime)
  | timezone (name : String)
  | timezoneSet
  deriving DecidableEq

/-- Whether the session is open. -/
def OpenReply.accepted (r : OpenReply) : Bool := r.flags.has .accepted

/-- Whether a body has to be written before there is an answer to read. -/
def OpenReply.needsBody (r : OpenReply) : Bool := r.flags.has .needsBody

/-- How many bytes of data reach a buffer of `room` bytes. -/
def ReadReply.copied (r : ReadReply) (room : Nat) : Nat := min r.data.length room

/-- A buffer after as much of the data as fits has been copied to its front. -/
def ReadReply.copyInto (r : ReadReply) (buffer : List UInt8) : List UInt8 :=
  r.data.take buffer.length ++ buffer.drop (r.copied buffer.length)

/-- Copying does not change the size of a buffer. -/
theorem ReadReply.length_copyInto (r : ReadReply) (buffer : List UInt8) :
    (r.copyInto buffer).length = buffer.length := by
  simp only [copyInto, copied, List.length_append, List.length_take, List.length_drop]
  omega

namespace Response

/-- The shape of an answer in words. -/
def shape : Response → String
  | .opened _ => "session opened"
  | .data _ => "data"
  | .written _ => "data taken"
  | .closed => "session closed"
  | .info _ => "session state"
  | .time _ => "time"
  | .formatted _ => "rendered time"
  | .timezone _ => "timezone"
  | .timezoneSet => "timezone set"

/-! ## Layouts -/

/-- What speaks against a payload of at least `length` bytes in a version. -/
def layoutFault? (p : List UInt8) (length : Nat) (version : UInt8) : Option ProtocolError :=
  if p.length < length then some (.invalidFrame (.payloadShort length p.length))
  else if p.head? = some version then none
  else some (.unsupportedVersion (p.headD 0))

theorem le_length_of_layoutFault? {p : List UInt8} {length : Nat} {version : UInt8}
    (h : layoutFault? p length version = none) : length ≤ p.length := by
  unfold layoutFault? at h
  split at h
  · cases h
  · omega

/-- Reads a payload that has at least `length` bytes and is of a version. -/
def checked (p : List UInt8) (length : Nat) (version : UInt8)
    (read : length ≤ p.length → Except ProtocolError Response) : Except ProtocolError Response :=
  match h : layoutFault? p length version with
  | some e => .error e
  | none => read (le_length_of_layoutFault? h)

/-- `version, flags, 2 spare, handle` -/
def readOpened (p : List UInt8) : Except ProtocolError Response :=
  checked p 6 networkVersion fun _ =>
    .ok (.opened
      { flags := ⟨p[1]⟩
        handle := LittleEndian.word16At p 4 (by omega) })

/-- `version, flags, 2 spare, handle, offset, length, data` -/
def readData (p : List UInt8) : Except ProtocolError Response :=
  checked p 12 networkVersion fun _ =>
    let length := (LittleEndian.word16At p 10 (by omega)).toNat
    if p.length < 12 + length then
      .error (.invalidFrame (.readOverrun length (p.length - 12)))
    else
      .ok (.data
        { flags := ⟨p[1]⟩
          handle := LittleEndian.word16At p 4 (by omega)
          offset := LittleEndian.word32At p 6 (by omega)
          data := (p.drop 12).take length })

/-- `version, flags, 2 spare, handle, offset, count` -/
def readWritten (p : List UInt8) : Except ProtocolError Response :=
  checked p 12 networkVersion fun _ =>
    .ok (.written
      { handle := LittleEndian.word16At p 4 (by omega)
        offset := LittleEndian.word32At p 6 (by omega)
        written := LittleEndian.word16At p 10 (by omega) })

/-- `version, flags, 2 spare, handle, status, content length` -/
def readInfo (p : List UInt8) : Except ProtocolError Response :=
  checked p 16 networkVersion fun _ =>
    let flags : Flags InfoFlag := ⟨p[1]⟩
    .ok (.info
      { handle := LittleEndian.word16At p 4 (by omega)
        info :=
          { httpStatus :=
              if flags.has .hasStatus then some (LittleEndian.word16At p 6 (by omega)) else none
            contentLength :=
              if flags.has .hasLength then some (LittleEndian.word64At p 8 (by omega)) else none
            flags } })

/-- `version, flags, 2 spare, seconds` -/
def readTime (p : List UInt8) : Except ProtocolError Response :=
  checked p 12 clockVersion fun _ => .ok (.time ⟨LittleEndian.word64At p 4 (by omega)⟩)

/-- `version, flags, 2 spare, layout, length, data` -/
def readFormatted (p : List UInt8) : Except ProtocolError Response :=
  checked p 6 clockVersion fun _ =>
    match TimeFormat.ofCode p[4] with
    | .error e => .error (.value e)
    | .ok format =>
      let length := p[5].toNat
      if p.length < 6 + length then .error (.invalidFrame (.formattedOverrun length))
      else
        match FormattedTime.ofBytes format ((p.drop 6).take length) with
        | .error e => .error (.value e)
        | .ok t => .ok (.formatted t)

/-- `version, flags, 2 spare, length, name` -/
def readTimezone (p : List UInt8) : Except ProtocolError Response :=
  checked p 5 clockVersion fun _ =>
    let length := p[4].toNat
    if p.length < 5 + length then .error (.invalidFrame (.timezoneOverrun length))
    else
      match Utf8.decode ((p.drop 5).take length) with
      | .error fault => .error (.invalidFrame (.timezoneText fault))
      | .ok name => .ok (.timezone name)

/-- The answer to a command in the layout that goes with it. -/
def ofPayload (command : Command) (p : List UInt8) : Except ProtocolError Response :=
  match command with
  | .openUrl => readOpened p
  | .read => readData p
  | .write => readWritten p
  | .close => .ok .closed
  | .info => readInfo p
  | .clockGet | .clockSet | .clockSync => readTime p
  | .clockFormat => readFormatted p
  | .timezoneGet => readTimezone p
  | .timezoneSet | .timezoneSave => .ok .timezoneSet

/-! ## Packets and frames as answers -/

/-- A packet as the answer to a command. -/
def parse (expected : Command) (p : Packet) : Except ProtocolError Response :=
  if p.command ≠ expected then .error (.unexpectedResponse expected p.command)
  else if p.status ≠ .ok then .error (.status p.status)
  else ofPayload expected p.payload

/-- A frame as the answer to a command. -/
def decode (expected : Command) (frame : List UInt8) : Except ProtocolError Response :=
  match Packet.decode frame with
  | .error e => .error e
  | .ok p => parse expected p

end Response

end CompanionBus
