import CompanionBus.Proofs.Checksum.FoldedSum
import CompanionBus.Proofs.Packet.Refusals
import CompanionBus.Proofs.Packet.RoundTrip
/-
  Which byte strings are frames.

  1. **The grammar** — a frame is service, command, length and checksum, then a chain of descriptors
     (`Descriptor.Chain`), the fields that they describe, and a payload; `Dissection frame p` cuts a
     byte string into these parts. Descriptors are not unique: entry 0 describes nothing and may
     stand anywhere, and a run may be split, so a packet has many frames besides the one it is
     written as.

  2. **Specification (`decode_iff_dissection`)** — reading a byte string gives a packet exactly when
     it can be cut into the parts of that packet. Everything else is refused with an error of the
     protocol, and an error about length names the true length and one that is too long for it.

  3. **The crux** — each reader takes a part off the front in just one way. For descriptors this is said
     twice, by induction on the chain (`readChain_of_chain`) and on the bytes (`chain_of_readChain`); for
     fields it is one induction on the widths that the chain has given (`readFields_eq_ok_iff`). What the
     one reader leaves, the other begins with, so the place in the frame need not be counted.
-/
namespace CompanionBus

/-! ## Chains of descriptors -/

namespace Descriptor

/-- `Chain bytes widths` — the bytes are a chain of descriptors, for fields of these widths. The low
    three bits of each pick an entry of the table, the top bit is set on all but the last, and no
    other bit is set. -/
inductive Chain : List UInt8 → List Width → Prop where
  | last {c : UInt8} (hc : c < 8) : Chain [c] (run c)
  | more {c : UInt8} {bytes : List UInt8} {widths : List Width} (hc : c < 8)
      (rest : Chain bytes widths) : Chain ((c ||| moreBit) :: bytes) (run c ++ widths)

/-- A descriptor without reserved bits is an entry of the table, or one that announces another. -/
theorem entry_or_more {d : UInt8} (h : d &&& reservedBits = 0) :
    (d &&& moreBit = 0 ∧ d < 8) ∨ (d &&& moreBit ≠ 0 ∧ ∃ c < 8, d = c ||| moreBit) := by
  have key : ∀ n < 256, UInt8.ofNat n &&& reservedBits = 0 →
      (UInt8.ofNat n &&& moreBit = 0 ∧ UInt8.ofNat n < 8) ∨
        (UInt8.ofNat n &&& moreBit ≠ 0 ∧ UInt8.ofNat n &&& 7 < 8 ∧
          UInt8.ofNat n = (UInt8.ofNat n &&& 7) ||| moreBit) := by
    decide +kernel
  have hd := key d.toNat d.toNat_lt
  rw [UInt8.ofNat_toNat] at hd
  rcases hd h with hentry | ⟨hmore, hlt, heq⟩
  · exact Or.inl hentry
  · exact Or.inr ⟨hmore, d &&& 7, hlt, heq⟩

/-- **The reader takes off a chain**, whichever one it is, and leaves what follows it. -/
theorem readChain_of_chain {total : Nat} {chain : List UInt8} {widths : List Width}
    (h : Chain chain widths) (rest : List UInt8) :
    readChain total (chain ++ rest) = .ok (widths, rest) := by
  induction h with
  | @last c hc =>
    obtain ⟨hres, hmore⟩ := plain_entry hc
    show readChain total (c :: rest) = _
    rw [readChain, if_neg (fun hne => hne hres), if_pos hmore]
  | @more c bytes widths hc _ ih =>
    obtain ⟨hres, hmore, hrun⟩ := plain_more hc
    show readChain total ((c ||| moreBit) :: (bytes ++ rest)) = _
    rw [readChain, if_neg (fun hne => hne hres), if_neg hmore, ih, hrun]

/-- **What the reader takes off is a chain.** -/
theorem chain_of_readChain {total : Nat} {bytes rest : List UInt8} {widths : List Width}
    (h : readChain total bytes = .ok (widths, rest)) :
    ∃ chain, bytes = chain ++ rest ∧ Chain chain widths := by
  -- on the bytes, one descriptor at a step
  induction bytes generalizing widths with
  | nil => cases h
  | cons d bytes ih =>
    rw [readChain] at h
    by_cases hres : d &&& reservedBits = 0
    · rw [if_neg (fun hne => hne hres)] at h
      rcases entry_or_more hres with ⟨hmore, hlt⟩ | ⟨hmore, c, hc, rfl⟩
      · rw [if_pos hmore] at h
        cases h
        exact ⟨[d], rfl, .last hlt⟩
      · rw [if_neg hmore] at h
        cases hread : readChain total bytes with
        | error e =>
          rw [hread] at h
          cases h
        | ok p =>
          obtain ⟨widths', rest'⟩ := p
          rw [hread] at h
          cases h
          obtain ⟨chain, rfl, hchain⟩ := ih hread
          rw [(plain_more hc).2.2]
          exact ⟨(c ||| moreBit) :: chain, rfl, .more hc hchain⟩
    · rw [if_pos hres] at h
      cases h

theorem Chain.ne_nil {chain : List UInt8} {widths : List Width} (h : Chain chain widths) :
    chain ≠ [] := by
  cases h <;> exact List.cons_ne_nil _ _

end Descriptor

namespace Packet

/-! ## Fields -/

/-- The fields that are read off the front are those whose bytes stand there. -/
theorem readFields_eq_ok_iff {total : Nat} {widths : List Width} {bytes payload : List UInt8}
    {fields : List Field} :
    readFields total widths bytes = .ok (fields, payload) ↔
      fields.map Field.width = widths ∧ bytes = fields.flatMap Field.toBytes ++ payload := by
  constructor
  · intro h
    induction widths generalizing bytes fields with
    | nil =>
      cases h
      exact ⟨rfl, rfl⟩
    | cons w widths ih =>
      rw [readFields] at h
      split at h
      · cases h
      rename_i hlong
      cases hread : readFields total widths (bytes.drop w.bytes) with
      | error e =>
        rw [hread] at h
        cases h
      | ok p =>
        obtain ⟨fields', payload'⟩ := p
        rw [hread] at h
        cases h
        obtain ⟨hwidths, hbytes⟩ := ih hread
        have htake : (bytes.take w.bytes).length = w.bytes := by
          rw [List.length_take]
          omega
        refine ⟨by rw [List.map_cons, Field.width_ofNat, hwidths], ?_⟩
        rw [List.flatMap_cons, Field.toBytes_ofNat_decode htake, List.append_assoc, ← hbytes,
          List.take_append_drop]
  · rintro ⟨rfl, rfl⟩
    exact readFields_toBytes total payload fields

theorem checkStatus_eq_ok_iff {fields : List Field} :
    checkStatus fields = .ok () ↔ ∀ f ∈ fields.head?, f.value ≤ 0xFF := by
  cases fields with
  | nil => exact ⟨fun _ _ hf => (nomatch hf), fun _ => rfl⟩
  | cons f fields =>
    rw [checkStatus, List.head?_cons]
    split
    · rename_i hle
      exact ⟨fun _ f' hf => Option.some.inj hf ▸ hle, fun _ => rfl⟩
    · rename_i hgt
      refine iff_of_false (fun h => ?_) (fun h => hgt (h f rfl))
      cases h

/-! ## What follows the checksum -/

/-- A byte string is the body of a packet if a chain for its fields, the fields and its payload make
    it up. -/
theorem ofBody_eq_ok_iff {command : Command} {total : Nat} {bytes : List UInt8} {p : Packet} :
    ofBody command total bytes = .ok p ↔
      p.command = command ∧ p.StatusFits ∧
        ∃ chain, bytes = chain ++ p.fields.flatMap Field.toBytes ++ p.payload ∧
          Descriptor.Chain chain (p.fields.map Field.width) := by
  constructor
  · intro h
    rw [ofBody] at h
    cases hchain : Descriptor.readChain total bytes with
    | error e =>
      rw [hchain] at h
      cases h
    | ok r =>
      obtain ⟨widths, rest⟩ := r
      rw [hchain] at h
      dsimp only at h
      cases hfields : readFields total widths rest with
      | error e =>
        rw [hfields] at h
        cases h
      | ok r =>
        obtain ⟨fields, payload⟩ := r
        rw [hfields] at h
        dsimp only at h
        cases hstatus : checkStatus fields with
        | error e =>
          rw [hstatus] at h
          cases h
        | ok u =>
          rw [hstatus] at h
          cases h
          obtain ⟨chain, rfl, hdescribes⟩ := Descriptor.chain_of_readChain hchain
          obtain ⟨rfl, rfl⟩ := readFields_eq_ok_iff.mp hfields
          exact ⟨rfl, checkStatus_eq_ok_iff.mp hstatus, chain, (List.append_assoc ..).symm,
            hdescribes⟩
  · rintro ⟨rfl, hstatus, chain, rfl, hchain⟩
    rw [ofBody, List.append_assoc, Descriptor.readChain_of_chain hchain]
    dsimp only
    rw [readFields_toBytes]
    dsimp only
    rw [checkStatus_eq_ok_iff.mpr hstatus]

/-! ## Frames -/

/-- What has been checked of a frame that is read: the length that it gives, its checksum, and the
    command that it names. -/
theorem decode_eq_ok {frame : List UInt8} {p : Packet} (h : decode frame = .ok p) :
    ∃ low high checksum rest,
      frame = p.command.service.code :: p.command.code :: low :: high :: checksum :: rest ∧
      LittleEndian.decode [low, high] = frame.length ∧
      Checksum.frameSum frame = checksum ∧
      ofBody p.command frame.length rest = .ok p := by
  rw [decode.eq_def] at h
  split at h
  · rename_i service code low high checksum first rest
    split at h
    · cases h
    rename_i hlength
    split at h
    · cases h
    rename_i hsum
    cases hcommand : Command.ofWire service code with
    | error e =>
      rw [hcommand] at h
      cases h
    | ok command =>
      rw [hcommand] at h
      obtain ⟨rfl, -, -⟩ := ofBody_eq_ok_iff.mp h
      obtain ⟨rfl, rfl⟩ := Command.ofWire_eq_ok_iff.mp hcommand
      exact ⟨low, high, checksum, first :: rest, rfl, Decidable.not_not.mp hlength,
        Decidable.not_not.mp hsum, h⟩
  · cases h

/-- A frame that is read carries its own checksum. -/
theorem verify_of_decode {frame : List UInt8} {p : Packet} (h : decode frame = .ok p) :
    Checksum.verify frame = true := by
  obtain ⟨low, high, checksum, rest, hframe, -, hsum, -⟩ := decode_eq_ok h
  rw [Checksum.verify_iff, hsum, hframe]
  rfl

/-- `Dissection frame p` — the parts that make up a frame of the packet `p`. -/
structure Dissection (frame : List UInt8) (p : Packet) where
  /-- The two bytes of the length, the low one first. -/
  low : UInt8
  high : UInt8
  checksum : UInt8
  /-- The descriptors. -/
  chain : List UInt8
  /-- The frame is its parts, one after the other. -/
  frame_eq : frame = p.command.service.code :: p.command.code :: low :: high :: checksum ::
    (chain ++ p.fields.flatMap Field.toBytes ++ p.payload)
  /-- The length counts the whole frame. -/
  length_eq : LittleEndian.decode [low, high] = frame.length
  /-- The checksum is the sum of the frame with a 0 in its place. -/
  checksum_eq : checksum = Checksum.sum (frame.set Checksum.position 0)
  /-- The chain describes the fields of the packet. -/
  describes : Descriptor.Chain chain (p.fields.map Field.width)
  /-- The first field, if there is one, is a status. -/
  status : p.StatusFits

namespace Dissection

variable {frame : List UInt8} {p : Packet}

theorem length_frame (d : Dissection frame p) :
    frame.length = 5 + d.chain.length + valueBytes p.fields + p.payload.length := by
  have hlength := congrArg List.length d.frame_eq
  simp only [List.length_cons, List.length_append, length_flatMap_toBytes] at hlength
  omega

theorem headerSize_le (d : Dissection frame p) : headerSize ≤ frame.length := by
  have hpos := List.length_pos_iff.mpr d.describes.ne_nil
  have hlength := d.length_frame
  rw [headerSize]
  omega

/-- **A byte string that can be dissected is read.** -/
theorem decode_eq (d : Dissection frame p) : decode frame = .ok p := by
  obtain ⟨low, high, checksum, chain, hframe, hlength, hsum, hchain, hstatus⟩ := d
  obtain ⟨first, rest, hcons⟩ := List.exists_cons_of_ne_nil
    (List.append_ne_nil_of_left_ne_nil (List.append_ne_nil_of_left_ne_nil hchain.ne_nil
      (p.fields.flatMap Field.toBytes)) p.payload)
  have hbody : ofBody p.command frame.length (first :: rest) = .ok p :=
    ofBody_eq_ok_iff.mpr ⟨rfl, hstatus, chain, hcons.symm, hchain⟩
  have hcommand : Command.ofWire p.command.service.code p.command.code = .ok p.command :=
    Command.ofWire_eq_ok_iff.mpr ⟨rfl, rfl⟩
  rw [← Checksum.frameSum_eq] at hsum
  rw [hcons] at hframe
  rw [hframe] at hlength hsum hbody ⊢
  rw [decode, if_neg (fun hne => hne hlength), if_neg (fun hne => hne hsum.symm), hcommand]
  exact hbody

/-- The status of a packet that comes in a frame is what its first field says. -/
theorem status_eq (d : Dissection frame p) :
    p.status = match p.fields with
      | [] => .ok
      | first :: _ => Status.ofCode first.value.toUInt8 := by
  have hstatus := d.status
  unfold StatusFits at hstatus
  rw [Packet.status]
  cases hfields : p.fields with
  | nil => rfl
  | cons first fields =>
    rw [hfields] at hstatus
    dsimp only
    rw [if_pos (hstatus first rfl)]

end Dissection

/-- **A byte string that is read can be dissected.** -/
theorem dissection_of_decode {frame : List UInt8} {p : Packet} (h : decode frame = .ok p) :
    Nonempty (Dissection frame p) := by
  obtain ⟨low, high, checksum, rest, hframe, hlength, hsum, hbody⟩ := decode_eq_ok h
  obtain ⟨-, hstatus, chain, rfl, hchain⟩ := ofBody_eq_ok_iff.mp hbody
  exact ⟨⟨low, high, checksum, chain, hframe, hlength, by rw [← hsum, Checksum.frameSum_eq],
    hchain, hstatus⟩⟩

/-! ## What is refused -/

/-- `Refuses total e` — the error `e` is one that a reader of a frame of length `total` gives: it is
    one of the protocol, and if it asks for more bytes then there are indeed not so many. -/
def Refuses (total : Nat) (e : ProtocolError) : Prop :=
  e.kind = .protocol ∧ ∀ need length, e = .packetTooShort need length → length = total ∧ total < need

/-- **A frame that is not read is refused for what it is.** -/
theorem refuses_of_decode {frame : List UInt8} {e : ProtocolError} (h : decode frame = .error e) :
    Refuses frame.length e := by
  have hrefusal := refusal_of_decode h
  refine ⟨hrefusal.proper.1, fun need length he => ?_⟩
  subst he
  cases hrefusal with
  | tooShort hlt => exact ⟨rfl, hlt⟩

/-- **Frames are what the grammar says.** A byte string is read as a packet exactly when it can be
    cut into the parts of one: known service and command, its own length, its own checksum, a chain
    of descriptors, the fields of the widths described, and a payload, the first field being a
    status. Such a byte string holds a header at least, is as long as its parts, and carries the
    status in its first field. Any other is refused, by an error of the protocol that asks for more
    bytes only if there are not so many. -/
theorem decode_iff_dissection (frame : List UInt8) :
    (∀ p, decode frame = .ok p ↔ Nonempty (Dissection frame p)) ∧
      (∀ p, ∀ d : Dissection frame p, headerSize ≤ frame.length ∧
        frame.length = 5 + d.chain.length + valueBytes p.fields + p.payload.length ∧
        p.status = match p.fields with
          | [] => .ok
          | first :: _ => Status.ofCode first.value.toUInt8) ∧
      ((¬ ∃ p, Nonempty (Dissection frame p)) →
        ∃ e, decode frame = .error e ∧ e.kind = .protocol ∧
          ∀ need length, e = .packetTooShort need length → length = frame.length ∧ length < need) := by
  refine ⟨fun p => ⟨dissection_of_decode, fun ⟨d⟩ => d.decode_eq⟩,
    fun p d => ⟨d.headerSize_le, d.length_frame, d.status_eq⟩, fun hnone => ?_⟩
  cases hdecode : decode frame with
  | ok p =>
    exact absurd ⟨p, dissection_of_decode hdecode⟩ hnone
  | error e =>
    obtain ⟨hkind, hshort⟩ := refuses_of_decode hdecode
    refine ⟨e, rfl, hkind, fun need length he => ?_⟩
    obtain ⟨rfl, hlt⟩ := hshort need length he
    exact ⟨rfl, hlt⟩

/-- A frame with two descriptors that describe nothing before the one for its status. -/
example : decode [0x45, 0x01, 0x0A, 0x00, 0x59, 0x80, 0x80, 0x01, 0x00, 0x07]
    = .ok { command := .clockGet, fields := [.byte 0], payload := [7] } := rfl

end Packet

end CompanionBus
