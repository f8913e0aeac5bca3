import CompanionBus.Checksum
import CompanionBus.Packet.Descriptor
/-
  Packets: what the two ends of the bus say to each other, and the frames that carry them.

  A frame is

      service, command, length (2 bytes), checksum, descriptors, fields, payload

  where the length counts the whole frame.

  1. **Program** — `Packet.encode` writes a frame, unless it would get longer than the limit.
     `Packet.decode` reads one: it checks length and checksum before it looks inside, then follows
     the descriptors, then the fields they describe; the rest is the payload.

  2. **Specification** — decoding is the inverse of encoding, except that no answer can carry a
     status above one byte: a frame whose first field is larger is refused, although it can be
     written.

  3. **The crux** — every reader takes its part off the front and hands on the rest, so that the
     frame is the parts one after the other.
-/
namespace CompanionBus

/-- A command with its fields and its payload. In an answer the first field is the status. -/
structure Packet where
  command : Command
  fields : List Field := []
  payload : List UInt8 := []
  deriving DecidableEq

namespace Packet

/-! ## Parts of a packet -/

/-- An answer with a status in its only field. -/
def ofStatus (command : Command) (status : Status) (payload : List UInt8) : Packet :=
  { command, fields := [.byte status.code], payload }

/-- The status that a packet carries: success if it has no field, and an unknown one if its first
    field holds more than a byte. -/
def status (p : Packet) : Status :=
  match p.fields with
  | [] => .ok
  | f :: _ => if f.value ≤ 0xFF then Status.ofCode f.value.toUInt8 else .unknown 0xFF

/-- The descriptors of the fields of a packet. -/
def descriptors (p : Packet) : List UInt8 := Descriptor.chain (p.fields.map Field.width)

/-- The bytes of a header up to the first descriptor, and that descriptor. -/
def headerSize : Nat := 6

/-- How many bytes fields take. -/
def valueBytes (fields : List Field) : Nat := fields.foldr (fun f n => f.width.bytes + n) 0

/-- The length of the frame of a packet. -/
def size (p : Packet) : Nat :=
  headerSize - 1 + p.descriptors.length + valueBytes p.fields + p.payload.length

/-! ## Writing a frame -/

/-- Descriptors, fields and payload, which follow the checksum. -/
def body (p : Packet) : List UInt8 :=
  p.descriptors ++ p.fields.flatMap Field.toBytes ++ p.payload

/-- The frame of a packet with a given checksum byte. -/
def frameWith (p : Packet) (checksum : UInt8) : List UInt8 :=
  p.command.service.code :: p.command.code :: LittleEndian.encode 2 p.size
    ++ checksum :: p.body

/-- The frame of a packet, if it is short enough to be sent. -/
def encode (p : Packet) : Except ProtocolError (List UInt8) :=
  if maxFrame < p.size then .error (.payloadTooLarge p.size maxFrame)
  else .ok (p.frameWith (Checksum.frameSum (p.frameWith 0)))

/-! ## Reading a frame -/

/-- The fields of given widths at the front of a byte string, and what follows them. `total` is the
    length of the whole frame, which ends where the bytes do. -/
def readFields (total : Nat) :
    List Width → List UInt8 → Except ProtocolError (List Field × List UInt8)
  | [], rest => .ok ([], rest)
  | w :: widths, rest =>
    if rest.length < w.bytes then
      .error (.packetTooShort (total - rest.length + w.bytes) total)
    else
      match readFields total widths (rest.drop w.bytes) with
      | .error e => .error e
      | .ok (fields, payload) =>
        .ok (Field.ofNat w (LittleEndian.decode (rest.take w.bytes)) :: fields, payload)

/-- The first field holds a status, which is one byte. -/
def checkStatus : List Field → Except ProtocolError Unit
  | [] => .ok ()
  | f :: _ => if f.value ≤ 0xFF then .ok () else .error (.invalidFrame (.statusRange f.value))

/-- The packet of a command whose descriptors, fields and payload are the given bytes, at the end of
    a frame of length `total`. -/
def ofBody (command : Command) (total : Nat) (bytes : List UInt8) : Except ProtocolError Packet :=
  match Descriptor.readChain total bytes with
  | .error e => .error e
  | .ok (widths, rest) =>
    match readFields total widths rest with
    | .error e => .error e
    | .ok (fields, payload) =>
      match checkStatus fields with
      | .error e => .error e
      | .ok () => .ok { command, fields, payload }

/-- The packet in a frame. -/
def decode (frame : List UInt8) : Except ProtocolError Packet :=
  match frame with
  | service :: code :: low :: high :: checksum :: first :: rest =>
    if LittleEndian.decode [low, high] ≠ frame.length then
      .error (.lengthMismatch (LittleEndian.decode [low, high]) frame.length)
    else if Checksum.frameSum frame ≠ checksum then
      .error (.checksumMismatch (Checksum.frameSum frame) checksum)
    else
      match Command.ofWire service code with
      | .error e => .error e
      | .ok command => ofBody command frame.length (first :: rest)
  | _ => .error (.packetTooShort headerSize frame.length)

end Packet

end CompanionBus
