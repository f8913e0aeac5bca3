import CompanionBus.Proofs.Packet.Shortest
/-
  A packet has many frames, and the one it is written as is the shortest.

  1. **Program** — `recode` reads a frame and writes what it has read.

  2. **Specification (`recode_canonical`)** — the descriptors that are written are read as the widths
     of the fields, and no other chain that is read so is shorter. So a frame is never shorter than
     the packet in it is by its size. If that size keeps to the limit, what is written is read as the
     same packet, and to write it once more changes nothing; it is the frame that was read if and
     only if that one had just these descriptors.

  3. **The crux (`Dissection.eq_frame`)** — of all the parts of a frame, only the descriptors are a
     matter of choice: the packet gives the fields and the payload, and these with the descriptors
     give the length and the checksum.
-/
namespace CompanionBus.Packet

/-! ## Descriptors -/

theorem descriptors_ne_nil (p : Packet) : p.descriptors ≠ [] := Descriptor.link_ne_nil _

/-- No descriptors that are read as the fields of a packet are fewer than its own. -/
theorem length_descriptors_le {p : Packet} {total : Nat} {chain rest : List UInt8}
    (h : Descriptor.readChain total (chain ++ rest) = .ok (p.fields.map Field.width, rest)) :
    p.descriptors.length ≤ chain.length := by
  obtain ⟨chain', happ, hchain⟩ := Descriptor.chain_of_readChain h
  rw [List.append_cancel_right happ]
  exact Descriptor.length_chain_le hchain

/-! ## Frames with other descriptors -/

namespace Dissection

variable {frame : List UInt8} {p : Packet}

/-- **A frame is at least as long as its packet is by its size.** -/
theorem size_le (d : Dissection frame p) : p.size ≤ frame.length := by
  have hchain : p.descriptors.length ≤ d.chain.length := Descriptor.length_chain_le d.describes
  have hlength := d.length_frame
  rw [size, headerSize]
  omega

/-- **A frame with the descriptors of its packet is the one that is written.** -/
theorem eq_frame (d : Dissection frame p) (h : d.chain = p.descriptors) : frame = p.frame := by
  have hsize : frame.length = p.size := by
    rw [d.length_frame, h]
    rfl
  -- the length bytes are those of the size
  have hbytes : [d.low, d.high] = LittleEndian.encode 2 p.size := by
    rw [← hsize, ← d.length_eq]
    exact (LittleEndian.encode_decode [d.low, d.high]).symm
  have hwith : frame = p.frameWith d.checksum := by
    rw [frameWith, ← hbytes, body, ← h]
    exact d.frame_eq
  have hsum : d.checksum = Checksum.frameSum (p.frameWith 0) := by
    rw [d.checksum_eq, ← Checksum.frameSum_eq, hwith]
    exact frameSum_frameWith p _ 0
  rw [hwith, hsum, Packet.frame]

/-- The frame that is written has the descriptors of its packet. -/
theorem chain_eq (d : Dissection frame p) (h : frame = p.frame) : d.chain = p.descriptors := by
  have hframe : p.frame = p.command.service.code :: p.command.code :: d.low :: d.high ::
      d.checksum :: (d.chain ++ p.fields.flatMap Field.toBytes ++ p.payload) := by
    rw [← h]
    exact d.frame_eq
  rw [Packet.frame, frameWith_eq] at hframe
  simp only [List.cons.injEq, true_and] at hframe
  obtain ⟨-, -, -, hbody⟩ := hframe
  rw [body] at hbody
  exact (List.append_cancel_right (List.append_cancel_right hbody)).symm

end Dissection

/-! ## Reading and writing -/

/-- The frame of the packet in a frame. -/
def recode (frame : List UInt8) : Except ProtocolError (List UInt8) :=
  match decode frame with
  | .error e => .error e
  | .ok p => p.encode

theorem recode_of_decode {frame : List UInt8} {p : Packet} (h : decode frame = .ok p) :
    recode frame = p.encode := by
  rw [recode, h]

/-- **Descriptors are as few as can be, and writing is canonical.**

    The descriptors of a packet are at least one, the table has an entry for each run that the writer
    looks up, and they are read as the widths of the fields; any others that are read so are not
    fewer. A frame is at least as long as the size of the packet in it. If that size keeps to the
    limit, the packet is written, as a frame that is read as it again and is then left as it is; that
    is the very frame that was read if and only if this one has the descriptors of the packet. -/
theorem recode_canonical :
    (∀ p : Packet,
      p.descriptors ≠ [] ∧
      Descriptor.lookups (p.fields.map Field.width)
        = (Descriptor.codes (p.fields.map Field.width)).map some ∧
      (∀ total rest, Descriptor.readChain total (p.descriptors ++ rest)
        = .ok (p.fields.map Field.width, rest)) ∧
      ∀ total chain rest,
        Descriptor.readChain total (chain ++ rest) = .ok (p.fields.map Field.width, rest) →
          p.descriptors.length ≤ chain.length) ∧
    ∀ frame p, decode frame = .ok p →
      p.size ≤ frame.length ∧
      (p.size ≤ maxFrame → ∃ written, p.encode = .ok written ∧ decode written = .ok p ∧
        recode frame = .ok written ∧ recode written = .ok written ∧
        ∀ d : Dissection frame p, written = frame ↔ d.chain = p.descriptors) := by
  refine ⟨fun p => ⟨p.descriptors_ne_nil, Descriptor.lookups_eq _, ?_, ?_⟩, ?_⟩
  · intro total rest
    exact Descriptor.readChain_chain total _ rest
  · intro total chain rest hread
    exact length_descriptors_le hread
  · intro frame p hdecode
    obtain ⟨d⟩ := dissection_of_decode hdecode
    refine ⟨d.size_le, fun hsize => ?_⟩
    have hencode : p.encode = .ok p.frame := encode_of_le hsize
    have hagain : decode p.frame = .ok p := decode_frame_of_statusFits hsize d.status
    refine ⟨p.frame, hencode, hagain, ?_, ?_, fun d => ?_⟩
    · rw [recode_of_decode hdecode, hencode]
    · rw [recode_of_decode hagain, hencode]
    · constructor
      · intro hsame
        exact d.chain_eq hsame.symm
      · intro hchain
        exact (d.eq_frame hchain).symm

/-- A frame with two descriptors that describe nothing, and what is left of it. -/
example : recode [0x45, 0x01, 0x0A, 0x00, 0x59, 0x80, 0x80, 0x01, 0x00, 0x07]
    = .ok [0x45, 0x01, 0x08, 0x00, 0x56, 0x01, 0x00, 0x07] := by decide

end CompanionBus.Packet
