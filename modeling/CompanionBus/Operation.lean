import CompanionBus.Error.Client
import CompanionBus.Request
import CompanionBus.Response
import CompanionBus.Session.Table
/-
  Operations: what an exchange means for the table of sessions.

  1. **Program** — an `Operation` looks at the table and either refuses, or says which request to
     send and how to `settle` the answer: what the caller gets, and what the table becomes. The link
     plays no part here, so everything that an operation does to the table is in this file.

  2. **The rules** — an answer has to repeat the handle and the offset of its request. When an
     operation fails, the table is as it was; only closing takes the session out whatever the
     answer, since it is of no more use.

  3. **The crux** — opening holds a slot while its request is under way, and each of its ways out
     either binds that slot or releases it.
-/
namespace CompanionBus

/-- A request that is about to be sent, and what its answer will mean. -/
structure Pending (α : Type) where
  request : Request
  settle : Except ClientError Response → Except ClientError α × SessionTable

/-- What to ask of the device, given the table of sessions. -/
abbrev Operation (α : Type) := SessionTable → Except ClientError (Pending α)

namespace Operation

/-! ## Parts -/

/-- An answer that does not fit its request. -/
def misfit (fault : FrameFault) : ClientError := .protocol (.invalidFrame fault)

/-- An answer of a shape that does not belong to its request. -/
def unrelated (r : Response) : ClientError := misfit (.unrelated r.shape)

/-- An argument that cannot be used. -/
def refused (fault : ArgumentFault) : ClientError := .protocol (.invalidArgument fault)

/-- The answer has to be for the handle that was asked about. -/
def checkHandle (expected answered : UInt16) : Except ClientError Unit :=
  if expected = answered then .ok () else .error (misfit (.handleEcho answered expected))

/-- The answer has to be for the offset that was asked about. -/
def checkOffset (expected answered : UInt32) : Except ClientError Unit :=
  if expected = answered then .ok () else .error (misfit (.offsetEcho answered expected))

/-- Changes the session of an answer that has been accepted. -/
def record {α : Type} (t : SessionTable) (handle : UInt16) (f : Session → Session) (result : α) :
    Except ClientError α × SessionTable :=
  match t.update handle f with
  | .error e => (.error (.protocol e), t)
  | .ok t => (.ok result, t)

/-- A question that does not concern the table. -/
def ask {α : Type} (request : Request) (pick : Response → Except ClientError α) : Operation α :=
  fun t => .ok
    { request
      settle
        | .error e => (.error e, t)
        | .ok r => (pick r, t) }

/-- An operation on the session with a handle, which has to be in the table. -/
def onSession {α : Type} (handle : UInt16) (op : Session → Operation α) : Operation α :=
  fun t =>
    match t.get handle with
    | .error e => .error (.protocol e)
    | .ok s => op s t

/-! ## Opening -/

/-- The session that an address and the answer to it make. -/
def sessionOf (url : String) (reply : OpenReply) : Session :=
  { handle := reply.handle, kind := SessionKind.ofUrl url, needsBody := reply.needsBody }

/-- The answer to an address, for which a slot is held: the session goes into the slot, or the slot
    is given up. -/
def settleOpen (url : String) (r : Reservation) (held : SessionTable) :
    Except ClientError Response → Except ClientError UInt16 × SessionTable
  | .error e => (.error e, held.release r)
  | .ok (.opened reply) =>
    if reply.accepted then
      match held.bind r (sessionOf url reply) with
      | (.error e, t) => (.error (.protocol e), t)
      | (.ok (), t) => (.ok reply.handle, t)
    else (.error (misfit (.openRefused url)), held.release r)
  | .ok other => (.error (unrelated other), held.release r)

/-- Opens a session on an address and gives its handle. The address is checked before a slot is
    held, and a slot is held before anything is sent. -/
def openUrl (method : Method) (url : String) (flags : Flags OpenFlag) (bodyLength : UInt32) :
    Operation UInt16 :=
  fun t =>
    let request := Request.openUrl method flags url bodyLength
    match request.toPacket with
    | .error e => .error (.protocol e)
    | .ok _ =>
      match t.reserve with
      | .error e => .error (.protocol e)
      | .ok (r, held) => .ok { request, settle := settleOpen url r held }

/-! ## Writing -/

/-- A session after `written` bytes of `data` have been taken. Writing nothing ends the body. -/
def advanceWrite (data : List UInt8) (written : UInt16) (s : Session) : Session :=
  { s with
    writeCursor := s.writeCursor + written.toUInt32
    needsBody := if data = [] then false else s.needsBody }

/-- The answer to data: it tells how much was taken, which is at most what was sent. -/
def settleWrite (handle : UInt16) (offset : UInt32) (data : List UInt8) (t : SessionTable) :
    Except ClientError Response → Except ClientError UInt16 × SessionTable
  | .error e => (.error e, t)
  | .ok (.written reply) =>
    match checkHandle handle reply.handle with
    | .error e => (.error e, t)
    | .ok () =>
      match checkOffset offset reply.offset with
      | .error e => (.error e, t)
      | .ok () =>
        if data.length < reply.written.toNat then
          (.error (misfit (.writeExcess reply.written.toNat data.length)), t)
        else record t handle (advanceWrite data reply.written) reply.written
  | .ok other => (.error (unrelated other), t)

/-- Sends data and gives how much of it was taken. The data has to go on where the last write
    ended. -/
def write (handle : UInt16) (offset : UInt32) (data : List UInt8) : Operation UInt16 :=
  onSession handle fun s t =>
    if offset = s.writeCursor then
      .ok { request := .write handle offset data, settle := settleWrite handle offset data t }
    else .error (refused (.writeOffset offset s.writeCursor handle))

/-- What ending a body comes to: a device that does not know how says so, which is no failure. -/
def halfClosed : Except ClientError UInt16 → Except ClientError Bool
  | .ok _ => .ok true
  | .error e => if e.isUnsupported then .ok false else .error e

/-- Says that no more data follows, by writing nothing. -/
def halfClose (handle : UInt16) : Operation Bool :=
  onSession handle fun s t =>
    match write handle s.writeCursor [] t with
    | .error e => .error e
    | .ok p =>
      .ok
        { request := p.request
          settle := fun answer => ((halfClosed (p.settle answer).1), (p.settle answer).2) }

/-! ## Reading -/

/-- What an answer to a read gives the caller: the outcome, and the buffer with the data at its
    front. -/
structure ReadResult where
  outcome : Except ClientError ReadOutcome
  buffer : List UInt8

/-- What a caller with a buffer of `room` bytes learns of the data of an answer. -/
def outcomeOf (room : Nat) (reply : ReadReply) : ReadOutcome where
  bytesRead := reply.copied room
  declaredLength := reply.data.length
  flags := reply.flags

/-- A session after `count` bytes from `offset` on have been read. -/
def advanceRead (offset : UInt32) (count : Nat) (s : Session) : Session :=
  { s with readCursor := offset + UInt32.ofNat count }

/-- The answer to a read: its data goes into the buffer as far as there is room, and only then is
    the session changed. -/
def settleRead (handle : UInt16) (offset : UInt32) (buffer : List UInt8) (t : SessionTable) :
    Except ClientError Response → Except ClientError ReadResult × SessionTable
  | .error e => (.error e, t)
  | .ok (.data reply) =>
    match checkHandle handle reply.handle with
    | .error e => (.error e, t)
    | .ok () =>
      match checkOffset offset reply.offset with
      | .error e => (.error e, t)
      | .ok () =>
        match record t handle (advanceRead offset (reply.copied buffer.length))
          (outcomeOf buffer.length reply) with
        | (outcome, t) => (.ok { outcome, buffer := reply.copyInto buffer }, t)
  | .ok other => (.error (unrelated other), t)

/-- How much a read with a buffer of `room` bytes asks for: one chunk at most. -/
def readSize (room : Nat) : UInt16 := UInt16.ofNat (min room maxChunk)

/-- Reads from `offset` on into a buffer, which must not be empty. -/
def read (handle : UInt16) (offset : UInt32) (buffer : List UInt8) : Operation ReadResult :=
  onSession handle fun _ t =>
    if buffer = [] then .error (refused .emptyBuffer)
    else
      .ok
        { request := .read handle offset (readSize buffer.length)
          settle := settleRead handle offset buffer t }

/-! ## Asking about a session, and closing it -/

/-- The state of a session in an answer. -/
def pickInfo (handle : UInt16) : Response → Except ClientError SessionInfo
  | .info reply =>
    match checkHandle handle reply.handle with
    | .error e => .error e
    | .ok () => .ok reply.info
  | other => .error (unrelated other)

/-- Asks for the state of a session. -/
def info (handle : UInt16) : Operation SessionInfo :=
  onSession handle fun _ => ask (.info handle) (pickInfo handle)

/-- What closing a session comes to. -/
def closed : Except ClientError Response → Except ClientError Unit
  | .error e => .error e
  | .ok .closed => .ok ()
  | .ok other => .error (unrelated other)

/-- Closes a session. It is forgotten whatever the device answers. -/
def close (handle : UInt16) : Operation Unit :=
  onSession handle fun _ t => .ok
    { request := .close handle
      settle := fun answer => (closed answer, (t.remove handle).2) }

/-! ## The clock -/

/-- The time in an answer. -/
def pickTime : Response → Except ClientError ClockTime
  | .time t => .ok t
  | other => .error (unrelated other)

/-- Asks for the time. -/
def clockGet : Operation ClockTime := ask .clockGet pickTime

/-- Sets the time, and gives the time that the device has then. -/
def clockSet (time : ClockTime) : Operation ClockTime := ask (.clockSet time) pickTime

/-- Has the device take the time from the network, and gives the time that it has then. -/
def clockSync : Operation ClockTime := ask .clockSync pickTime

/-- The rendered time in an answer, which has to be in the layout asked for. -/
def pickFormatted (format : TimeFormat) : Response → Except ClientError FormattedTime
  | .formatted t =>
    if t.format = format then .ok t else .error (misfit (.formatEcho format t.format))
  | other => .error (unrelated other)

/-- Asks for the time in a layout, in the timezone of the device unless one is given. -/
def clockFormat (format : TimeFormat) (timezone : Option String) : Operation FormattedTime :=
  ask (.clockFormat format timezone) (pickFormatted format)

/-- The timezone in an answer. -/
def pickTimezone : Response → Except ClientError String
  | .timezone name => .ok name
  | other => .error (unrelated other)

/-- Asks for the timezone. -/
def timezoneGet : Operation String := ask .timezoneGet pickTimezone

/-- Whether an answer says that the timezone is set. -/
def pickTimezoneSet : Response → Except ClientError Unit
  | .timezoneSet => .ok ()
  | other => .error (unrelated other)

/-- Sets the timezone, and saves it if it is to `persist`. -/
def timezoneSet (timezone : String) (persist : Bool) : Operation Unit :=
  ask (.timezoneSet timezone persist) pickTimezoneSet

end Operation

end CompanionBus
