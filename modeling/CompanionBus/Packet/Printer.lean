import CompanionBus.Packet
/-
  Packets as text, in one line: a short form for messages, and a long form that shows the contents.
-/
namespace CompanionBus.Packet

/-- How many bytes of a payload the long form shows. -/
def shownPayload : Nat := 32

/-- The command, and how many fields and bytes of payload there are. -/
def render (p : Packet) : String :=
  s!"Packet[{p.command.render}](fields={p.fields.length}, len={p.payload.length})"

/-- The contents of a packet, with the beginning of its payload in hexadecimal. -/
def describe (p : Packet) : String :=
  "Packet \x7b command: " ++ p.command.title
    ++ ", fields: [" ++ ", ".intercalate (p.fields.map Field.render)
    ++ "], status: " ++ p.status.title
    ++ ", payload_len: " ++ toString p.payload.length
    ++ ", payload: \"" ++ Hex.dump (p.payload.take shownPayload) ++ "\" \x7d"

end CompanionBus.Packet
